import Conformance.Options.Document
import Conformance.Proofs.FirstSeen
import Conformance.Proofs.Traversal
import Mathlib.Data.Option.Basic

set_option autoImplicit false

/-!
# Records in documents

A record is written as an object, whose members may stand in any order and among others of unknown
names, or as the list of its values in the order of its fields.  `RecordOf` says so, and
`fields?_eq_some` that either way each field is found with its value.  What is found is never
anything but what was written for the field (`Holds.mem_zip`), and a field that is written twice
and a list that is too long are refused.
-/

namespace Conformance.Json

/-- The value writes the record of these fields: as an object that has them in any order, possibly
with others of unknown names, or as the list of their values. -/
inductive RecordOf (fields : List (String × Json)) : Json → Prop where
  | object {members others : List (Option String × Json)}
      (hmembers : members.Perm (fields.map (fun field => (some field.1, field.2)) ++ others))
      (hothers : ∀ member ∈ others, ∃ name, member.1 = some name ∧ name ∉ fields.map Prod.fst) :
      RecordOf fields (.object members)
  | list : RecordOf fields (.array (fields.map Prod.snd))

/-- The value has `value` for a field: as a member of an object, or as the item at the place of the
field in a list. -/
inductive Holds (names : List String) (name : String) (value : Json) : Json → Prop where
  | member {members : List (Option String × Json)} (hname : name ∈ names)
      (h : (some name, value) ∈ members) : Holds names name value (.object members)
  | item {items : List Json} (h : (name, value) ∈ names.zip items) :
      Holds names name value (.array items)

/-- The value is no record of these fields at all: it has one of them twice, or more values than
there are fields. -/
inductive Malformed (names : List String) : Json → Prop where
  | twice {name : String} {first second : Json}
      {before between after : List (Option String × Json)} (hname : name ∈ names) :
      Malformed names
        (.object (before ++ (some name, first) :: (between ++ (some name, second) :: after)))
  | long {items : List Json} (h : names.length < items.length) : Malformed names (.array items)

/-- The value has null for one of the fields, or is no record of them. -/
def Faulty (names : List String) (record : Json) : Prop :=
  Malformed names record ∨ ∃ name, Holds names name .null record

/-! ## Records that are read -/

theorem field?_eq_some {members : List (Option String × Json)} {name : String} {value : Json}
    (h : (members.filter fun member => member.1 == some name) = [(some name, value)]) :
    field? members name = some (some value) := by
  rw [field?, h]

/-- Of the fields of a record, those with a given name are one, if the names are distinct. -/
theorem filter_members {fields : List (String × Json)} (hnodup : (fields.map Prod.fst).Nodup)
    {members others : List (Option String × Json)}
    (hmembers : members.Perm (fields.map (fun field => (some field.1, field.2)) ++ others))
    (hothers : ∀ member ∈ others, ∃ name, member.1 = some name ∧ name ∉ fields.map Prod.fst)
    {field : String × Json} (hfield : field ∈ fields) :
    (members.filter fun member => member.1 == some field.1) = [(some field.1, field.2)] := by
  have hknown : ((fields.map fun field => (some field.1, field.2)).filter
      fun member => member.1 == some field.1) = [(some field.1, field.2)] := by
    have hkeys : ((fields.map fun field => (some field.1, field.2)).map Prod.fst).Nodup := by
      simpa [Function.comp_def] using hnodup.map (Option.some_injective String)
    simpa only [beq_eq_decide] using
      FirstSeen.filter_eq_singleton_of_nodup hkeys (List.mem_map_of_mem hfield)
  have hunknown : (others.filter fun member => member.1 == some field.1) = [] := by
    rw [List.filter_eq_nil_iff]
    intro member hmember
    obtain ⟨name, hname, hnot⟩ := hothers member hmember
    rw [hname, beq_iff_eq, Option.some.injEq]
    rintro rfl
    exact hnot (List.mem_map_of_mem hfield)
  have hperm := hmembers.filter fun member => member.1 == some field.1
  rw [List.filter_append, hknown, hunknown, List.append_nil] at hperm
  exact List.perm_singleton.mp hperm

/-- Each field of a record is found with its value, however the record is written. -/
theorem fields?_eq_some {fields : List (String × Json)} (hnodup : (fields.map Prod.fst).Nodup)
    {value : Json} (h : RecordOf fields value) :
    value.fields? (fields.map Prod.fst) false = some (fields.map fun field => some field.2) := by
  cases h with
  | list => simp [fields?]
  | @object members others hmembers hothers =>
    have hpermitted : ∀ member ∈ members, ∃ name, member.1 = some name := by
      intro member hmember
      rcases List.mem_append.mp (hmembers.mem_iff.mp hmember) with hknown | hother
      · obtain ⟨field, -, rfl⟩ := List.mem_map.mp hknown
        exact ⟨_, rfl⟩
      · obtain ⟨name, hname, -⟩ := hothers member hother
        exact ⟨name, hname⟩
    have hread : (fields.map Prod.fst).mapM (field? members) =
        some (fields.map fun field => some field.2) :=
      Traversal.mapM_map_eq_some fun field hfield =>
        field?_eq_some (filter_members hnodup hmembers hothers hfield)
    rw [fields?, if_pos, hread]
    rw [List.all_eq_true]
    intro member hmember
    obtain ⟨name, hname⟩ := hpermitted member hmember
    simp only [hname, Bool.not_false, Bool.true_or]

/-! ## Records that are refused -/

theorem mapM_of_fields? {names : List String} {closed : Bool}
    {members : List (Option String × Json)} {found : List (Option Json)}
    (h : (Json.object members).fields? names closed = some found) :
    names.mapM (field? members) = some found := by
  rw [fields?] at h
  split at h
  · exact h
  · cases h

/-- A member with a name is the only one that is found under it. -/
theorem eq_of_field? {members : List (Option String × Json)} {name : String} {value : Json}
    {found : Option Json} (h : (some name, value) ∈ members)
    (hfound : field? members name = some found) : found = some value := by
  have hmem : (some name, value) ∈ members.filter fun member => member.1 == some name := by
    simp [h]
  unfold field? at hfound
  split at hfound
  · next hnone => simp [hnone] at hmem
  · next key only hone =>
    rw [hone, List.mem_singleton] at hmem
    cases hmem
    cases hfound
    rfl
  · cases hfound

/-- What is found for a field is what was written for it. -/
theorem Holds.mem_zip {names : List String} {name : String} {closed : Bool} {value record : Json}
    {found : List (Option Json)} (h : Holds names name value record)
    (hfound : record.fields? names closed = some found) :
    (name, some value) ∈ names.zip found := by
  cases h with
  | @member members hname h =>
    obtain ⟨found, hread, hzip⟩ :=
      Traversal.exists_mem_zip_of_mapM (mapM_of_fields? hfound) hname
    rwa [eq_of_field? h hread] at hzip
  | @item items h =>
    rw [fields?] at hfound
    split at hfound
    · cases hfound
      obtain ⟨i, hi⟩ := List.mem_iff_getElem?.mp h
      obtain ⟨hname, hitem⟩ := List.getElem?_zip_eq_some.mp hi
      refine List.mem_iff_getElem?.mpr ⟨i, List.getElem?_zip_eq_some.mpr ⟨hname, ?_⟩⟩
      rw [List.getElem?_append_left (by simpa using (List.getElem?_eq_some_iff.mp hitem).1),
        List.getElem?_map, hitem]
      rfl
    · cases hfound

/-- So it is with two fields. -/
theorem Holds.eq_or_eq {first second name : String} {closed : Bool} {value record : Json}
    {atFirst atSecond : Option Json} (h : Holds [first, second] name value record)
    (hfound : record.fields? [first, second] closed = some [atFirst, atSecond]) :
    name = first ∧ atFirst = some value ∨ name = second ∧ atSecond = some value := by
  have hzip := h.mem_zip hfound
  simp only [List.zip_cons_cons, List.zip_nil_right, List.mem_cons, Prod.mk.injEq,
    List.not_mem_nil, or_false] at hzip
  rcases hzip with ⟨hname, hvalue⟩ | ⟨hname, hvalue⟩
  · exact Or.inl ⟨hname, hvalue.symm⟩
  · exact Or.inr ⟨hname, hvalue.symm⟩

/-- A name that occurs twice has no member. -/
theorem field?_twice {name : String} {first second : Json}
    (before between after : List (Option String × Json)) :
    field? (before ++ (some name, first) :: (between ++ (some name, second) :: after)) name =
      none := by
  have hlength : 2 ≤ ((before ++ (some name, first) ::
      (between ++ (some name, second) :: after)).filter
        fun member => member.1 == some name).length := by
    simp only [List.filter_append, List.filter_cons, beq_self_eq_true, if_true, List.length_append,
      List.length_cons]
    omega
  unfold field?
  split
  · next hnone => simp [hnone] at hlength
  · next hone => simp [hone] at hlength
  · rfl

/-- A record that is malformed is not read. -/
theorem Malformed.fields?_eq_none {names : List String} {closed : Bool} {record : Json}
    (h : Malformed names record) : record.fields? names closed = none := by
  rw [Option.eq_none_iff_forall_ne_some]
  intro found hfound
  cases h with
  | @twice name first second before between after hname =>
    obtain ⟨value, hvalue, -⟩ :=
      Traversal.exists_mem_zip_of_mapM (mapM_of_fields? hfound) hname
    rw [field?_twice] at hvalue
    cases hvalue
  | long h =>
    rw [fields?, if_neg (by omega)] at hfound
    cases hfound

end Conformance.Json
