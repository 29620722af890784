import Conformance.Proofs.Json.Writing
import Conformance.Proofs.Options.Record

set_option autoImplicit false

/-!
# Options and the documents that write them

Options have many documents: their record and that of the layout within may each be an object, with
its members in any order and among others, or a list, and the text may spell strings as it likes.
All of them are read as those options and as no others, so that a name stays a name even if it is
the name of a rule, and a position stays a position.  What is malformed, has null for a field, or
goes on behind its end is refused.
-/

namespace Conformance

open Json

/-! ## References, categories and policies -/

namespace SheetRef

/-- Documents can write the reference. -/
def Addressable : SheetRef → Prop
  | .index position => position < positionLimit
  | .name _ => True

theorem ofJson?_toJson {ref : SheetRef} (h : ref.Addressable) : ofJson? ref.toJson = some ref := by
  cases ref with
  | name text => rfl
  | index position =>
    simp only [toJson, ofJson?, Numeral.natural?_ofNat, Option.bind_eq_bind, Option.bind_some]
    exact if_pos h

theorem exact_toJson (ref : SheetRef) : ∀ n, .number n ∈ ref.toJson.tokens → n.Exact := by
  cases ref with
  | name text => simp [toJson, tokens]
  | index position =>
    simp only [toJson, tokens, List.mem_singleton, Token.number.injEq]
    rintro n rfl d ⟨⟩

end SheetRef

namespace Categories

/-- Documents can write the categories. -/
def Addressable : Categories → Prop
  | .listed refs => ∀ ref ∈ refs, ref.Addressable
  | .allAfterOverview => True

theorem ofJson?_toJson {categories : Categories} (h : categories.Addressable) :
    ofJson? categories.toJson = some categories := by
  cases categories with
  | allAfterOverview => rfl
  | listed refs =>
    have hread : (refs.map SheetRef.toJson).mapM SheetRef.ofJson? = some (refs.map id) :=
      Traversal.mapM_map_eq_some fun ref href => SheetRef.ofJson?_toJson (h ref href)
    simp only [toJson, ofJson?, hread, List.map_id, Option.map_some]

theorem exact_toJson (categories : Categories) :
    ∀ n, .number n ∈ categories.toJson.tokens → n.Exact := by
  cases categories with
  | allAfterOverview => simp [toJson, tokens]
  | listed refs =>
    intro n hn
    obtain ⟨value, hvalue, hn⟩ := number_mem_array.mp hn
    obtain ⟨ref, -, rfl⟩ := List.mem_map.mp hvalue
    exact ref.exact_toJson n hn

end Categories

namespace DuplicatePolicy

theorem ofJson?_toJson (policy : DuplicatePolicy) : ofJson? policy.toJson = some policy := by
  simp [ofJson?, toJson, tag?]

end DuplicatePolicy

/-! ## Layouts -/

namespace Layout

/-- Documents can write the layout. -/
def Addressable (layout : Layout) : Prop :=
  layout.overview.Addressable ∧ layout.categories.Addressable

/-- The fields of a layout with their values. -/
def fields (layout : Layout) : List (String × Json) :=
  [("overview", layout.overview.toJson), ("categories", layout.categories.toJson)]

/-- The value writes the layout. -/
def Written (layout : Layout) (value : Json) : Prop := RecordOf layout.fields value

theorem ofJson?_eq_some {layout : Layout} (h : layout.Addressable) {value : Json}
    (hvalue : layout.Written value) : ofJson? value = some layout := by
  have hnodup : (layout.fields.map Prod.fst).Nodup := by simp [fields]
  have hfields : value.fields? fieldNames false =
      some [some layout.overview.toJson, some layout.categories.toJson] :=
    fields?_eq_some hnodup hvalue
  rw [ofJson?, hfields]
  simp only [Option.bind_eq_bind, Option.bind_some, orDefault, SheetRef.ofJson?_toJson h.1,
    Categories.ofJson?_toJson h.2]
  rfl

/-- What is read for a field is what was written for it. -/
theorem ofJson?_holds {layout : Layout} {value field : Json} {name : String}
    (h : ofJson? value = some layout) (hfield : Holds fieldNames name field value) :
    SheetRef.ofJson? field = some layout.overview ∨
      Categories.ofJson? field = some layout.categories := by
  rw [ofJson?, Option.bind_eq_bind, Option.bind_eq_some_iff] at h
  obtain ⟨found, hfound, h⟩ := h
  split at h
  · next overview categories =>
    simp only [Option.bind_eq_bind, Option.bind_eq_some_iff] at h
    obtain ⟨overview, hoverview, categories, hcategories, hlayout⟩ := h
    cases hlayout
    rcases hfield.eq_or_eq hfound with ⟨-, rfl⟩ | ⟨-, rfl⟩
    · exact Or.inl hoverview
    · exact Or.inr hcategories
  · cases h

/-- Malformed layouts and fields without a value are refused. -/
theorem ofJson?_eq_none {value : Json} (h : Faulty fieldNames value) : ofJson? value = none := by
  rw [Option.eq_none_iff_forall_ne_some]
  intro layout hlayout
  rcases h with hmalformed | ⟨name, hnull⟩
  · rw [ofJson?, hmalformed.fields?_eq_none] at hlayout
    cases hlayout
  · rcases ofJson?_holds hlayout hnull with hoverview | hcategories
    · cases hoverview
    · cases hcategories

theorem exact_toJson (layout : Layout) : ∀ n, .number n ∈ layout.toJson.tokens → n.Exact := by
  intro n hn
  simp only [toJson, tokens, memberTokens, List.mem_cons, List.mem_append, reduceCtorEq, false_or,
    List.not_mem_nil, or_false] at hn
  rcases hn with hoverview | hcategories
  · exact layout.overview.exact_toJson n hoverview
  · exact layout.categories.exact_toJson n hcategories

end Layout

/-! ## Options -/

namespace Options

/-- Documents can write the options. -/
def Addressable (options : Options) : Prop := options.layout.Addressable

/-- The fields of options with their values, among them one that writes the layout. -/
def fields (options : Options) (layout : Json) : List (String × Json) :=
  [("layout", layout), ("onDuplicate", options.onDuplicate.toJson)]

/-- The value writes the options. -/
def Written (options : Options) (value : Json) : Prop :=
  ∃ layout, options.layout.Written layout ∧ RecordOf (options.fields layout) value

/-- The value is at fault, or what it has for the layout is. -/
def Faulty (value : Json) : Prop :=
  Json.Faulty fieldNames value ∨
    ∃ layout, Holds fieldNames "layout" layout value ∧ Json.Faulty Layout.fieldNames layout

theorem written_toJson (options : Options) : options.Written options.toJson :=
  ⟨options.layout.toJson, .object (List.Perm.refl _) (by simp),
    .object (List.Perm.refl _) (by simp)⟩

theorem ofJson?_eq_some {options : Options} (h : options.Addressable) {value : Json}
    (hvalue : options.Written value) : ofJson? value = some options := by
  obtain ⟨layout, hlayout, hrecord⟩ := hvalue
  have hnodup : ((options.fields layout).map Prod.fst).Nodup := by simp [fields]
  have hfields : value.fields? fieldNames false =
      some [some layout, some options.onDuplicate.toJson] :=
    fields?_eq_some hnodup hrecord
  rw [ofJson?, hfields]
  simp only [Option.bind_eq_bind, Option.bind_some, orDefault, Layout.ofJson?_eq_some h hlayout,
    DuplicatePolicy.ofJson?_toJson]
  rfl

/-- What is read for a field is what was written for it. -/
theorem ofJson?_holds {options : Options} {value field : Json} {name : String}
    (h : ofJson? value = some options) (hfield : Holds fieldNames name field value) :
    name = "layout" ∧ Layout.ofJson? field = some options.layout ∨
      name = "onDuplicate" ∧ DuplicatePolicy.ofJson? field = some options.onDuplicate := by
  rw [ofJson?, Option.bind_eq_bind, Option.bind_eq_some_iff] at h
  obtain ⟨found, hfound, h⟩ := h
  split at h
  · next layout onDuplicate =>
    simp only [Option.bind_eq_bind, Option.bind_eq_some_iff] at h
    obtain ⟨layout, hlayout, onDuplicate, honDuplicate, hoptions⟩ := h
    cases hoptions
    rcases hfield.eq_or_eq hfound with ⟨rfl, rfl⟩ | ⟨rfl, rfl⟩
    · exact Or.inl ⟨rfl, hlayout⟩
    · exact Or.inr ⟨rfl, honDuplicate⟩
  · cases h

theorem ofJson?_eq_none {value : Json} (h : Faulty value) : ofJson? value = none := by
  rw [Option.eq_none_iff_forall_ne_some]
  intro options hoptions
  rcases h with (hmalformed | ⟨name, hnull⟩) | ⟨layout, hholds, hlayout⟩
  · rw [ofJson?, hmalformed.fields?_eq_none] at hoptions
    cases hoptions
  · rcases ofJson?_holds hoptions hnull with ⟨-, hread⟩ | ⟨-, hread⟩ <;> cases hread
  · rcases ofJson?_holds hoptions hholds with ⟨-, hread⟩ | ⟨hname, -⟩
    · rw [Layout.ofJson?_eq_none hlayout] at hread
      cases hread
    · exact absurd hname (by decide)

/-- No number writes options. -/
theorem ofJson?_number (n : Numeral) : ofJson? (.number n) = none := rfl

theorem exact_toJson (options : Options) : ∀ n, .number n ∈ options.toJson.tokens → n.Exact := by
  intro n hn
  simp only [toJson, DuplicatePolicy.toJson, tokens, memberTokens, List.mem_cons, List.mem_append,
    reduceCtorEq, false_or, List.not_mem_nil, or_false] at hn
  exact options.layout.exact_toJson n hn

/-! ## Documents of options -/

theorem ofText?_of_written {options : Options} (h : options.Addressable) {value : Json}
    {text : String} (hvalue : options.Written value) (hdocument : Document value text) :
    ofText? text = some options := by
  rw [ofText?, Json.ofText?_eq_some_iff.mpr hdocument]
  exact ofJson?_eq_some h hvalue

/-- No text writes two different options, so that nothing written turns into something else. -/
theorem eq_of_document {options other : Options} (h : options.Addressable)
    (hother : other.Addressable) {value value' : Json} {text : String}
    (hvalue : options.Written value) (hdocument : Document value text)
    (hvalue' : other.Written value') (hdocument' : Document value' text) : options = other := by
  have hread := ofText?_of_written h hvalue hdocument
  rw [ofText?_of_written hother hvalue' hdocument'] at hread
  exact (Option.some.inj hread).symm

theorem ofText?_of_faulty {value : Json} {text : String} (hvalue : Faulty value)
    (hdocument : Document value text) : ofText? text = none := by
  rw [ofText?, Json.ofText?_eq_some_iff.mpr hdocument]
  exact ofJson?_eq_none hvalue

/-- Nothing but white space may stand behind options. -/
theorem ofText?_append_of_read {options : Options} {text extra : String}
    (h : ofText? text = some options) (hextra : ¬ Token.Blank extra.toList) :
    ofText? (text ++ extra) = none := by
  rw [ofText?, Option.bind_eq_some_iff] at h
  obtain ⟨value, hvalue, hread⟩ := h
  have hnumber : ∀ n, value ≠ .number n := by
    rintro n rfl
    rw [ofJson?_number] at hread
    cases hread
  rw [ofText?, ofText?_append_eq_none hvalue hnumber hextra]
  rfl

/-- Options are read back from every document that writes them, among them the one made for them,
and not from any that is at fault or goes on behind its end. -/
theorem ofText?_documents (options : Options) (h : options.Addressable) :
    ofText? options.text = some options ∧
      (∀ value text, options.Written value → Document value text →
        ofText? text = some options) ∧
      (∀ value text, Faulty value → Document value text → ofText? text = none) ∧
      ∀ text extra : String, ofText? text = some options → ¬ Token.Blank extra.toList →
        ofText? (text ++ extra) = none := by
  refine ⟨?_, fun _ _ => ofText?_of_written h, fun _ _ => ofText?_of_faulty,
    fun _ _ => ofText?_append_of_read⟩
  have htext : Document options.toJson options.text := document_text options.exact_toJson
  exact ofText?_of_written h options.written_toJson htext

/-- Options with a sheet that is named like the rule, and with the last position. -/
theorem ofText?_documents_lists :
    let options : Options :=
      { layout :=
          { overview := .name "\x22"
            categories := .listed [.name "allAfterOverview", .index 18446744073709551615] }
        onDuplicate := .lastWins }
    options.Addressable ∧ ofText? options.text = some options ∧
      (∀ text, Document (.array [.array [.string (some "\x22"),
          .array [.string (some "allAfterOverview"), .number (.ofNat 18446744073709551615)]],
          .string (some "last-wins")]) text → ofText? text = some options) ∧
      (∀ text, Document (.object [(some "layout", .null)]) text → ofText? text = none) ∧
      ofText? (options.text ++ "]") = none := by
  intro options
  have h : options.Addressable := by
    simp [options, Addressable, Layout.Addressable, SheetRef.Addressable, Categories.Addressable,
      positionLimit]
  obtain ⟨hcanonical, hwritten, hfaulty, hextra⟩ := ofText?_documents options h
  have hnull : Faulty (.object [(some "layout", .null)]) :=
    .inl (.inr ⟨"layout", .member (by decide) (by simp)⟩)
  have hbracket : ¬ Token.Blank "]".toList := by simp [Token.Blank, Token.isSpace]
  exact ⟨h, hcanonical, fun text => hwritten _ text ⟨_, .list, .list⟩,
    fun text => hfaulty _ text hnull, hextra _ _ hcanonical hbracket⟩

/-- The rule is read where its name stands alone; in a list the name is that of a sheet. -/
example : (ofText? "[[1,[\"allAfterOverview\"]]]").map (·.layout.categories) =
      some (.listed [.name "allAfterOverview"]) ∧
    (ofText? "[[1,\"allAfterOverview\"]]").map (·.layout.categories) =
      some .allAfterOverview := by
  decide +kernel

end Options

end Conformance
