import Conformance.Proofs.Options.Closed
import Conformance.Proofs.Options.Document

set_option autoImplicit false

/-!
# Layout files

A layout file is a document with a closed record of three fields, each of which may be left out or be
null.  `Settings.Written` says what a record writes, without regard to how it is read, and
`Settings.Faulty` what can be wrong with a value: that it is no such record, or that a field has a
value of the wrong kind.  Every value is one or the other; those that write settings are read as
these and those at fault are refused (`ofText?_eq_some_iff`, `ofText?_eq_none_iff`).
-/

namespace Conformance

open Json

namespace Json

/-- The value is a name: as a string, or as the only member of an object with null for its value. -/
inductive Tags (name : String) : Json → Prop where
  | alone : Tags name (.string (some name))
  | member : Tags name (.object [(some name, .null)])

theorem tag?_eq_some_iff {value : Json} {name : String} :
    value.tag? = some name ↔ Tags name value := by
  constructor
  · intro h
    unfold tag? at h
    split at h
    · exact h ▸ .alone
    · exact h ▸ .member
    · cases h
  · rintro (_ | _) <;> rfl

/-- What a record says for a field that may be null as well as left out. -/
def Says {α : Type} (names : List String) (record : Json) (name : String)
    (written : α → Json → Prop) : Option α → Prop
  | none => ∀ value, Holds names name value record → value = .null
  | some a => ∃ value, Holds names name value record ∧ written a value

/-- The value is of another kind than those that are expected, and not null. -/
def IllTyped {α : Type} (written : α → Json → Prop) (value : Json) : Prop :=
  value ≠ .null ∧ ∀ a, ¬ written a value

section

variable {α : Type} {read : Json → Option α} {written : α → Json → Prop} {names : List String}
  {record : Json} {name : String} {found : Option Json}

/-- What is read for a field is what the record says. -/
theorem orNull_eq_some_iff (hread : ∀ value a, read value = some a ↔ written a value)
    (hnull : read .null = none) (hfinds : Finds names record name found) {said : Option α} :
    orNull read found = some said ↔ Says names record name written said := by
  have hholds : ∀ value, Holds names name value record ↔ found = some value :=
    fun value => (hfinds value).symm
  cases said with
  | none =>
    simp only [Says, hholds]
    rcases found with _ | (_ | _ | _ | _ | _ | _) <;> simp [orNull]
  | some a =>
    simp only [Says, hholds, ← hread]
    rcases found with _ | (_ | _ | _ | _ | _ | _) <;> simp [orNull, hnull]

/-- A record says something for a field, unless the value for it is of another kind. -/
theorem exists_says (h : ∀ value, Holds names name value record → ¬ IllTyped written value) :
    ∃ said, Says names record name written said := by
  by_cases hsome : ∃ a value, Holds names name value record ∧ written a value
  · obtain ⟨a, hsaid⟩ := hsome
    exact ⟨some a, hsaid⟩
  · refine ⟨none, fun value hholds => ?_⟩
    by_contra hnull
    exact h value hholds ⟨hnull, fun a hwritten => hsome ⟨a, value, hholds, hwritten⟩⟩

/-- It says nothing with a value of another kind. -/
theorem IllTyped.not_says {value : Json} (h : IllTyped written value)
    (hholds : Holds names name value record) (hfinds : Finds names record name found)
    {said : Option α} : ¬ Says names record name written said := by
  intro hsaid
  cases said with
  | none => exact h.1 (hsaid value hholds)
  | some a =>
    obtain ⟨other, hother, hwritten⟩ := hsaid
    have hsame := ((hfinds value).mpr hholds).symm.trans ((hfinds other).mpr hother)
    exact h.2 a (Option.some.inj hsame ▸ hwritten)

end

end Json

/-! ## The values of fields -/

/-- What is written with digits alone is the numeral of its number. -/
theorem Json.Numeral.eq_ofNat_of_natural? {n : Json.Numeral} {position : Nat}
    (h : n.natural? = some position) : n = .ofNat position := by
  obtain ⟨negative, whole, fraction, exponent⟩ := n
  unfold natural? at h
  split at h
  · cases h
  · next hplain =>
    cases h
    simpa [ofNat, and_assoc] using hplain

namespace SheetRef

/-- The value writes the reference. -/
def Written (ref : SheetRef) (value : Json) : Prop := ref.Addressable ∧ value = ref.toJson

theorem ofJson?_eq_some_iff (value : Json) (ref : SheetRef) :
    ofJson? value = some ref ↔ ref.Written value := by
  constructor
  · intro h
    unfold ofJson? at h
    split at h
    · obtain ⟨name, rfl, rfl⟩ := Option.map_eq_some_iff.mp h
      exact ⟨trivial, rfl⟩
    · next n =>
      obtain ⟨position, hposition, h⟩ := Option.bind_eq_some_iff.mp h
      split at h
      · next hlimit =>
        cases h
        exact ⟨hlimit, congrArg Json.number (Numeral.eq_ofNat_of_natural? hposition)⟩
      · cases h
    · cases h
  · rintro ⟨haddressable, rfl⟩
    exact ofJson?_toJson haddressable

end SheetRef

namespace Categories

/-- The value writes the categories. -/
inductive Written : Categories → Json → Prop where
  | listed {refs : List SheetRef} {items : List Json}
      (h : List.Forall₂ SheetRef.Written refs items) : Written (.listed refs) (.array items)
  | rule {value : Json} (h : Tags ruleName value) : Written .allAfterOverview value

theorem ofJson?_eq_some_iff (value : Json) (categories : Categories) :
    ofJson? value = some categories ↔ categories.Written value := by
  constructor
  · intro h
    unfold ofJson? at h
    split at h
    · next items =>
      obtain ⟨refs, hrefs, rfl⟩ := Option.map_eq_some_iff.mp h
      have hitems := (Traversal.mapM_eq_some_iff.mp hrefs).flip
      exact .listed
        (hitems.imp fun ref item hitem => (SheetRef.ofJson?_eq_some_iff item ref).mp hitem)
    · split at h
      · next htag =>
        cases h
        exact .rule (tag?_eq_some_iff.mp htag)
      · cases h
  · rintro (⟨hrefs⟩ | ⟨htags⟩)
    · next refs items =>
      have hread : items.mapM SheetRef.ofJson? = some refs :=
        Traversal.mapM_eq_some_iff.mpr
          (hrefs.flip.imp fun item ref hitem => (SheetRef.ofJson?_eq_some_iff item ref).mpr hitem)
      rw [ofJson?, hread, Option.map_some]
    · cases htags <;> rfl

end Categories

namespace DuplicatePolicy

theorem name_of_ofName? {name : String} {policy : DuplicatePolicy}
    (h : ofName? name = some policy) : name = policy.name := by
  unfold ofName? at h
  have hname := List.find?_some h
  exact (beq_iff_eq.mp hname).symm

/-- The value writes the policy. -/
def Written (policy : DuplicatePolicy) (value : Json) : Prop := Tags policy.name value

theorem ofJson?_eq_some_iff (value : Json) (policy : DuplicatePolicy) :
    ofJson? value = some policy ↔ policy.Written value := by
  rw [ofJson?, Option.bind_eq_some_iff, Written]
  constructor
  · rintro ⟨name, htag, hname⟩
    obtain rfl := name_of_ofName? hname
    exact tag?_eq_some_iff.mp htag
  · exact fun h => ⟨policy.name, tag?_eq_some_iff.mpr h, ofName?_name policy⟩

end DuplicatePolicy

/-! ## Records -/

namespace Settings

/-- The value is a closed record that says this of each setting. -/
structure Written (settings : Settings) (record : Json) : Prop where
  closed : Closed fieldNames record
  overview : Says fieldNames record "overview" SheetRef.Written settings.overview
  categories : Says fieldNames record "categories" Categories.Written settings.categories
  onDuplicate : Says fieldNames record "onDuplicate" DuplicatePolicy.Written settings.onDuplicate

/-- What can be wrong with a value that is to write settings. -/
inductive Faulty (record : Json) : Prop where
  | unfit (h : Unfit fieldNames record)
  | overview {value : Json} (hholds : Holds fieldNames "overview" value record)
      (h : IllTyped SheetRef.Written value)
  | categories {value : Json} (hholds : Holds fieldNames "categories" value record)
      (h : IllTyped Categories.Written value)
  | onDuplicate {value : Json} (hholds : Holds fieldNames "onDuplicate" value record)
      (h : IllTyped DuplicatePolicy.Written value)

/-- A record that is closed is found field by field. -/
theorem exists_finds {record : Json} (h : Closed fieldNames record) :
    ∃ overview categories onDuplicate,
      record.fields? fieldNames true = some [overview, categories, onDuplicate] ∧
        Finds fieldNames record "overview" overview ∧
        Finds fieldNames record "categories" categories ∧
        Finds fieldNames record "onDuplicate" onDuplicate := by
  have hnodup : fieldNames.Nodup := by decide
  obtain ⟨found, hfound⟩ := exists_fields?_of_closed h
  have hfinds := forall₂_finds hnodup hfound
  obtain ⟨overview, _, hoverview, htwo, rfl⟩ := List.forall₂_cons_left_iff.mp hfinds
  obtain ⟨categories, _, hcategories, hone, rfl⟩ := List.forall₂_cons_left_iff.mp htwo
  obtain ⟨onDuplicate, _, honDuplicate, hnone, rfl⟩ := List.forall₂_cons_left_iff.mp hone
  obtain rfl := List.forall₂_nil_left_iff.mp hnone
  exact ⟨overview, categories, onDuplicate, hfound, hoverview, hcategories, honDuplicate⟩

theorem ofJson?_eq_some_iff {settings : Settings} {record : Json} :
    ofJson? record = some settings ↔ settings.Written record := by
  constructor
  · intro h
    rw [ofJson?, Option.bind_eq_bind, Option.bind_eq_some_iff] at h
    obtain ⟨read, hread, h⟩ := h
    have hclosed := closed_of_fields? hread
    obtain ⟨overview, categories, onDuplicate, hfields, hfinds⟩ := exists_finds hclosed
    obtain rfl := Option.some.inj (hread.symm.trans hfields)
    simp only [Option.bind_eq_bind, Option.bind_eq_some_iff] at h
    obtain ⟨_, hoverview, _, hcategories, _, honDuplicate, hsettings⟩ := h
    cases hsettings
    exact ⟨hclosed, (orNull_eq_some_iff SheetRef.ofJson?_eq_some_iff rfl hfinds.1).mp hoverview,
      (orNull_eq_some_iff Categories.ofJson?_eq_some_iff rfl hfinds.2.1).mp hcategories,
      (orNull_eq_some_iff DuplicatePolicy.ofJson?_eq_some_iff rfl hfinds.2.2).mp honDuplicate⟩
  · intro h
    obtain ⟨overview, categories, onDuplicate, hfields, hfinds⟩ := exists_finds h.closed
    have hoverview :=
      (orNull_eq_some_iff SheetRef.ofJson?_eq_some_iff rfl hfinds.1).mpr h.overview
    have hcategories :=
      (orNull_eq_some_iff Categories.ofJson?_eq_some_iff rfl hfinds.2.1).mpr h.categories
    have honDuplicate :=
      (orNull_eq_some_iff DuplicatePolicy.ofJson?_eq_some_iff rfl hfinds.2.2).mpr h.onDuplicate
    rw [ofJson?, hfields]
    simp only [Option.bind_eq_bind, Option.bind_some, hoverview, hcategories, honDuplicate]
    rfl

/-- A value writes settings or is at fault. -/
theorem exists_written_or_faulty (record : Json) :
    (∃ settings : Settings, settings.Written record) ∨ Faulty record := by
  rcases closed_or_unfit fieldNames record with hclosed | hunfit
  · by_contra hneither
    obtain ⟨hnot, hfaulty⟩ := not_or.mp hneither
    obtain ⟨overview, hoverview⟩ := exists_says fun value hholds hill =>
      hfaulty (.overview hholds hill)
    obtain ⟨categories, hcategories⟩ := exists_says fun value hholds hill =>
      hfaulty (.categories hholds hill)
    obtain ⟨onDuplicate, honDuplicate⟩ := exists_says fun value hholds hill =>
      hfaulty (.onDuplicate hholds hill)
    exact hnot ⟨⟨overview, categories, onDuplicate⟩,
      hclosed, hoverview, hcategories, honDuplicate⟩
  · exact .inr (.unfit hunfit)

/-- It is not both. -/
theorem Faulty.not_written {record : Json} (h : Faulty record) {settings : Settings} :
    ¬ settings.Written record := by
  intro hwritten
  obtain ⟨_, _, _, hfields, hoverview, hcategories, honDuplicate⟩ := exists_finds hwritten.closed
  cases h with
  | unfit hunfit =>
    rw [hunfit.fields?_eq_none] at hfields
    cases hfields
  | overview hholds hill => exact hill.not_says hholds hoverview hwritten.overview
  | categories hholds hill => exact hill.not_says hholds hcategories hwritten.categories
  | onDuplicate hholds hill => exact hill.not_says hholds honDuplicate hwritten.onDuplicate

theorem ofJson?_eq_none_iff {record : Json} : ofJson? record = none ↔ Faulty record := by
  rw [Option.eq_none_iff_forall_ne_some]
  simp only [ne_eq, ofJson?_eq_some_iff]
  constructor
  · intro h
    rcases exists_written_or_faulty record with ⟨settings, hwritten⟩ | hfaulty
    · exact absurd hwritten (h settings)
    · exact hfaulty
  · exact fun hfaulty settings => hfaulty.not_written

/-! ## Texts -/

/-- The text is no layout file: it writes no value, or more than one, or a value that is at fault. -/
def Invalid (text : String) : Prop :=
  (∀ record, ¬ Document record text) ∨ ∃ record, Document record text ∧ Faulty record

theorem ofText?_eq_some_iff {settings : Settings} {text : String} :
    ofText? text = some settings ↔ ∃ record, Document record text ∧ settings.Written record := by
  simp only [ofText?, Option.bind_eq_some_iff, Json.ofText?_eq_some_iff, ofJson?_eq_some_iff]

theorem ofText?_eq_none_iff {text : String} : ofText? text = none ↔ Invalid text := by
  rw [ofText?, Option.bind_eq_none_iff, Invalid]
  simp only [Json.ofText?_eq_some_iff, ofJson?_eq_none_iff]
  constructor
  · intro h
    by_cases hdocument : ∃ record, Document record text
    · obtain ⟨record, hrecord⟩ := hdocument
      exact .inr ⟨record, hrecord, h record hrecord⟩
    · exact .inl (not_exists.mp hdocument)
  · rintro (hnone | ⟨record, hrecord, hfaulty⟩) other hother
    · exact absurd hother (hnone other)
    · have hsame := (Json.ofText?_eq_some_iff.mpr hother).symm.trans
        (Json.ofText?_eq_some_iff.mpr hrecord)
      rwa [Option.some.inj hsame]

/-- Nothing but white space may stand behind a layout file. -/
theorem invalid_append {text extra : String} (h : ¬ Invalid text)
    (hextra : ¬ Token.Blank extra.toList) : Invalid (text ++ extra) := by
  rw [← ofText?_eq_none_iff] at h ⊢
  obtain ⟨settings, hsettings⟩ := Option.ne_none_iff_exists'.mp h
  obtain ⟨record, hrecord, hread⟩ := Option.bind_eq_some_iff.mp hsettings
  have hnumber : ∀ n, record ≠ .number n := by
    rintro n rfl
    cases hread
  rw [ofText?, ofText?_append_eq_none hrecord hnumber hextra, Option.bind_none]

end Settings

end Conformance
