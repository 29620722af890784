import Conformance.Proofs.Options.Settings
import Conformance.Run.Sources

set_option autoImplicit false

/-!
# Where the options of a run come from

A flag on the command line comes before the layout file, and the layout file before the default; this
is so for each option by itself.  A layout file that is named must be there and be valid all the
same, even if there are flags for every option: only the file decides whether there are options at
all (`options_settled`).
-/

namespace Conformance

/-- What an option comes to: the value of its flag, else that of the file, else the default. -/
inductive Settled {α : Type} (flag file : Option α) (default : α) : α → Prop where
  | flag {a : α} (h : flag = some a) : Settled flag file default a
  | file {a : α} (hflag : flag = none) (h : file = some a) : Settled flag file default a
  | default (hflag : flag = none) (hfile : file = none) : Settled flag file default default

theorem settled_iff {α : Type} {flag file : Option α} {default a : α} :
    Settled flag file default a ↔ a = (flag.or file).getD default := by
  constructor
  · rintro (⟨h⟩ | ⟨hflag, h⟩ | ⟨hflag, hfile⟩)
    · rw [h, Option.some_or, Option.getD_some]
    · rw [hflag, h, Option.none_or, Option.getD_some]
    · rw [hflag, hfile, Option.none_or, Option.getD_none]
  · rintro rfl
    cases hflag : flag with
    | some a => exact .flag rfl
    | none =>
      cases hfile : file with
      | some a => exact .file rfl rfl
      | none => exact .default rfl rfl

namespace Args

/-- What the layout file says; nothing if none is named. -/
inductive LayoutSays (args : Args) (sources : Sources) : Settings → Prop where
  | unnamed (hlayout : args.layout = none) : LayoutSays args sources {}
  | named {path text : String} {record : Json} {settings : Settings}
      (hlayout : args.layout = some path) (htext : sources.text? path = some text)
      (hdocument : Json.Document record text) (hwritten : settings.Written record) :
      LayoutSays args sources settings

/-- What is wrong with the layout file that is named. -/
inductive LayoutFails (args : Args) (sources : Sources) : RunError → Prop where
  | unreadable {path : String} (hlayout : args.layout = some path)
      (htext : sources.text? path = none) : LayoutFails args sources (.unreadableLayout path)
  | invalid {path text : String} (hlayout : args.layout = some path)
      (htext : sources.text? path = some text) (hinvalid : Settings.Invalid text) :
      LayoutFails args sources (.invalidLayout path)

/-- The category sheets that are named by flags, if there are any. -/
def listed? (args : Args) : Option Categories :=
  if args.categorySheets = [] then none else some (.listed (args.categorySheets.map .name))

/-- The options are settled one by one.  Sheets named by flags go by their names. -/
structure Settles (args : Args) (file : Settings) (options : Options) : Prop where
  overview : Settled (args.overviewSheet.map .name) file.overview (.index 1) options.layout.overview
  categories : Settled args.listed? file.categories .allAfterOverview options.layout.categories
  onDuplicate : Settled args.onDuplicate file.onDuplicate .reject options.onDuplicate

theorem settles_iff {args : Args} {file : Settings} {options : Options} :
    args.Settles file options ↔ options = (args.settings.orElse file).options := by
  have hlisted : args.settings.categories = args.listed? := by
    simp only [settings, listed?, List.isEmpty_iff]
  constructor
  · rintro ⟨hoverview, hcategories, honDuplicate⟩
    rw [settled_iff] at hoverview hcategories honDuplicate
    obtain ⟨⟨overview, categories⟩, onDuplicate⟩ := options
    simp only at hoverview hcategories honDuplicate
    rw [hoverview, hcategories, honDuplicate, ← hlisted]
    rfl
  · rintro rfl
    refine ⟨settled_iff.mpr rfl, settled_iff.mpr ?_, settled_iff.mpr rfl⟩
    rw [← hlisted]
    rfl

end Args

namespace Sources

variable {sources : Sources} {args : Args}

theorem settings_eq_ok_iff {file : Settings} :
    sources.settings args.layout = .ok file ↔ args.LayoutSays sources file := by
  constructor
  · intro h
    cases hlayout : args.layout with
    | none =>
      rw [hlayout] at h
      cases h
      exact .unnamed hlayout
    | some path =>
      rw [hlayout, settings] at h
      split at h
      · cases h
      · next text htext =>
        split at h
        · cases h
        · next read hread =>
          cases h
          obtain ⟨record, hdocument, hwritten⟩ := Settings.ofText?_eq_some_iff.mp hread
          exact .named hlayout htext hdocument hwritten
  · rintro (⟨hlayout⟩ | ⟨hlayout, htext, hdocument, hwritten⟩)
    · rw [hlayout]
      rfl
    · have hread := Settings.ofText?_eq_some_iff.mpr ⟨_, hdocument, hwritten⟩
      simp only [hlayout, settings, htext, hread]

theorem settings_eq_error_iff {error : RunError} :
    sources.settings args.layout = .error error ↔ args.LayoutFails sources error := by
  constructor
  · intro h
    cases hlayout : args.layout with
    | none =>
      rw [hlayout] at h
      cases h
    | some path =>
      rw [hlayout, settings] at h
      split at h
      · next htext =>
        cases h
        exact .unreadable hlayout htext
      · next text htext =>
        split at h
        · next hread =>
          cases h
          exact .invalid hlayout htext (Settings.ofText?_eq_none_iff.mp hread)
        · cases h
  · rintro (⟨hlayout, htext⟩ | ⟨hlayout, htext, hinvalid⟩)
    · simp only [hlayout, settings, htext]
    · have hread := Settings.ofText?_eq_none_iff.mpr hinvalid
      simp only [hlayout, settings, htext, hread]

/-- Options fail with the layout file alone, whatever the flags are, and the text of the failure
begins with what was attempted.  Otherwise each option is settled by its flag, by the file or by its
default, in this order.  A layout file is none any more if something but white space is added to
it. -/
theorem options_settled (sources : Sources) (args : Args) :
    (∀ error, sources.options args = .error error ↔ args.LayoutFails sources error) ∧
    (∀ options, sources.options args = .ok options ↔
      ∃ file, args.LayoutSays sources file ∧ args.Settles file options) ∧
    (∀ path,
      (RunError.unreadableLayout path).context = "Failed to read layout file: " ++ path ∧
      (RunError.invalidLayout path).context = "Invalid layout file: " ++ path) ∧
    ∀ text extra : String, ¬ Settings.Invalid text → ¬ Json.Token.Blank extra.toList →
      Settings.Invalid (text ++ extra) := by
  refine ⟨fun error => ?_, fun options => ?_, fun path => ⟨rfl, rfl⟩,
    fun text extra => Settings.invalid_append⟩
  · rw [← settings_eq_error_iff, Sources.options]
    cases sources.settings args.layout <;> simp [Except.map]
  · simp only [← settings_eq_ok_iff, Args.settles_iff, Sources.options]
    cases sources.settings args.layout <;> simp [Except.map, eq_comm]

/-- A layout file that names an overview, has null for the categories and leaves out the policy. -/
def plainLayout : String := "\x7b\x22overview\x22: \x22Cases\x22, \x22categories\x22: null\x7d"

/-- A layout file with a name that is not known. -/
def strayLayout : String := "\x7b\x22overveiw\x22: \x22Cases\x22\x7d"

/-- Two layout files. -/
def shelf : Sources where
  text? path := [("plain", plainLayout), ("stray", strayLayout)].lookup path
  workbook? _ := none

/-- Arguments with a flag for each option. -/
def flagged (layout : String) : Args where
  input := "book"
  layout := some layout
  overviewSheet := some "Runs"
  categorySheets := ["1", "allAfterOverview"]
  onDuplicate := some .lastWins

/-- The flags decide where there is a valid layout file, and a stray name in an invalid one; without
flags the file decides, and the defaults where it says nothing. -/
theorem shelf_settled :
    (∃ file, (flagged "plain").LayoutSays shelf file ∧ (flagged "plain").Settles file
      { layout :=
          { overview := .name "Runs", categories := .listed [.name "1", .name "allAfterOverview"] }
        onDuplicate := .lastWins }) ∧
    (flagged "stray").LayoutFails shelf (.invalidLayout "stray") ∧
    (∃ file, ({ input := "book", layout := some "plain" } : Args).LayoutSays shelf file ∧
      ({ input := "book", layout := some "plain" } : Args).Settles file
        { layout := { overview := .name "Cases" } }) ∧
    ¬ Settings.Invalid plainLayout ∧ ¬ Json.Token.Blank "]".toList ∧
      Settings.Invalid (plainLayout ++ "]") := by
  have hvalid : ¬ Settings.Invalid plainLayout := by
    rw [← Settings.ofText?_eq_none_iff]
    decide +kernel
  have hbracket : ¬ Json.Token.Blank "]".toList := by simp [Json.Token.Blank, Json.Token.isSpace]
  refine ⟨((options_settled shelf (flagged "plain")).2.1 _).mp ?_,
    ((options_settled shelf (flagged "stray")).1 _).mp ?_,
    ((options_settled shelf { input := "book", layout := some "plain" }).2.1 _).mp ?_,
    hvalid, hbracket, (options_settled shelf default).2.2.2 _ _ hvalid hbracket⟩
  all_goals decide +kernel

end Sources

end Conformance
