import Conformance.Proofs.Options.Record

set_option autoImplicit false

/-!
# Closed records in documents

Some records have known fields and no others.  A value is such a record (`Closed`), or there is a
reason why it is not (`Unfit`): a member with an unknown name, a name that occurs twice, too many
values, or no object and no list at all.  Closed records are those that are read, and each of their
fields is found with the value that it has, if it has one (`fields?_closed_iff`).
-/

namespace Conformance.Json

/-- The value is a record that has no other fields: an object whose members have distinct names, all
of them those of fields, or a list with no more values than there are fields. -/
inductive Closed (names : List String) : Json → Prop where
  | object {members : List (Option String × Json)}
      (hknown : ∀ member ∈ members, ∃ name ∈ names, member.1 = some name)
      (hdistinct : (members.map Prod.fst).Nodup) : Closed names (.object members)
  | list {items : List Json} (h : items.length ≤ names.length) : Closed names (.array items)

/-- The value is no closed record. -/
inductive Unfit (names : List String) : Json → Prop where
  | unknown {members : List (Option String × Json)} {member : Option String × Json}
      (hmember : member ∈ members) (hname : ∀ name ∈ names, member.1 ≠ some name) :
      Unfit names (.object members)
  | malformed {record : Json} (h : Malformed names record) : Unfit names record
  | scalar {value : Json} (hobject : ∀ members, value ≠ .object members)
      (harray : ∀ items, value ≠ .array items) : Unfit names value

theorem closed_or_unfit (names : List String) (record : Json) :
    Closed names record ∨ Unfit names record := by
  cases record with
  | null | bool | number | string => exact .inr (.scalar nofun nofun)
  | array items =>
    rcases Nat.lt_or_ge names.length items.length with h | h
    · exact .inr (.malformed (.long h))
    · exact .inl (.list h)
  | object members =>
    by_cases hknown : ∀ member ∈ members, ∃ name ∈ names, member.1 = some name
    · by_cases hdistinct : (members.map Prod.fst).Nodup
      · exact .inl (.object hknown hdistinct)
      · obtain ⟨⟨key, first⟩, ⟨key', second⟩, before, between, after, rfl, -, hkey⟩ :=
          FirstSeen.exists_firstRepeat hdistinct
        obtain ⟨name, hname, rfl⟩ := hknown (key, first) (by simp)
        obtain rfl : key' = some name := hkey
        exact .inr (.malformed (.twice hname))
    · push Not at hknown
      obtain ⟨member, hmember, hname⟩ := hknown
      exact .inr (.unknown hmember hname)

/-- A field is found if it is written at most once, with the value that is written for it. -/
theorem field?_eq_some_iff {members : List (Option String × Json)} {name : String}
    {found : Option Json} :
    field? members name = some found ↔
      (members.filter fun member => member.1 == some name).length ≤ 1 ∧
        ∀ value, found = some value ↔ (some name, value) ∈ members := by
  have hmem : ∀ value, (some name, value) ∈ members ↔
      (some name, value) ∈ members.filter fun member => member.1 == some name := by simp
  have hkey : ∀ member ∈ members.filter fun member => member.1 == some name,
      member.1 = some name := by simp
  simp only [hmem]
  unfold field?
  generalize (members.filter fun member => member.1 == some name) = filtered at hkey ⊢
  match filtered, hkey with
  | [], _ => cases found <;> simp
  | [(key, only)], hkey =>
    obtain rfl : key = some name := hkey (key, only) (by simp)
    cases found <;> simp [eq_comm]
  | _ :: _ :: _, _ => simp

theorem length_filter_eq_count (members : List (Option String × Json)) (key : Option String) :
    (members.filter fun member => member.1 == key).length = (members.map Prod.fst).count key := by
  rw [List.count, List.countP_map, List.countP_eq_length_filter]
  rfl

/-! ## What is found -/

theorem all_permitted_iff {names : List String} {members : List (Option String × Json)} :
    (members.all fun member =>
      match member.1 with
      | some key => !true || names.contains key
      | none => false) = true ↔ ∀ member ∈ members, ∃ name ∈ names, member.1 = some name := by
  rw [List.all_eq_true]
  refine forall₂_congr fun member _ => ?_
  cases hkey : member.1 <;> simp

theorem holds_object_iff {names : List String} {name : String} {value : Json}
    {members : List (Option String × Json)} :
    Holds names name value (.object members) ↔ name ∈ names ∧ (some name, value) ∈ members := by
  constructor
  · rintro (⟨hname, hmember⟩ | _)
    exact ⟨hname, hmember⟩
  · rintro ⟨hname, hmember⟩
    exact .member hname hmember

theorem holds_array_iff {names : List String} {name : String} {value : Json} {items : List Json} :
    Holds names name value (.array items) ↔ (name, value) ∈ names.zip items := by
  constructor
  · rintro (_ | ⟨hitem⟩)
    exact hitem
  · exact .item

/-- The value found for a field is the value that the record has for it. -/
def Finds (names : List String) (record : Json) (name : String) (found : Option Json) : Prop :=
  ∀ value, found = some value ↔ Holds names name value record

theorem finds_rightUnique (names : List String) (record : Json) :
    Relator.RightUnique (Finds names record) := by
  intro name found other hfound hother
  exact Option.ext fun value => (hfound value).trans (hother value).symm

/-- In a list the value of a field stands at the place of its name. -/
theorem finds_array {names : List String} (hnodup : names.Nodup) {items : List Json} {i : Nat}
    {name : String} (hname : names[i]? = some name) :
    Finds names (.array items) name items[i]? := by
  intro value
  rw [holds_array_iff]
  constructor
  · intro hitem
    exact List.mem_iff_getElem?.mpr ⟨i, List.getElem?_zip_eq_some.mpr ⟨hname, hitem⟩⟩
  · intro hmem
    obtain ⟨j, hj⟩ := List.mem_iff_getElem?.mp hmem
    obtain ⟨hnamej, hitem⟩ := List.getElem?_zip_eq_some.mp hj
    obtain ⟨hlt, -⟩ := List.getElem?_eq_some_iff.mp hname
    obtain rfl : i = j := (List.getElem?_inj hlt hnodup).mp (hname.trans hnamej.symm)
    exact hitem

theorem forall₂_finds {names : List String} (hnodup : names.Nodup) {closed : Bool} {record : Json}
    {found : List (Option Json)} (h : record.fields? names closed = some found) :
    List.Forall₂ (Finds names record) names found := by
  rw [List.forall₂_iff_zip]
  cases record with
  | null | bool | number | string => cases h
  | object members =>
    obtain ⟨hlength, hzip⟩ :=
      List.forall₂_iff_zip.mp (Traversal.mapM_eq_some_iff.mp (mapM_of_fields? h))
    refine ⟨hlength, fun {name found} hmem value => ?_⟩
    rw [holds_object_iff, (field?_eq_some_iff.mp (hzip hmem)).2 value,
      and_iff_right (List.of_mem_zip hmem).1]
  | array items =>
    rw [fields?] at h
    split at h
    · next hlength =>
      cases h
      refine ⟨by simp [hlength], fun {name found} hmem => ?_⟩
      obtain ⟨i, hi⟩ := List.mem_iff_getElem?.mp hmem
      obtain ⟨hname, hfound⟩ := List.getElem?_zip_eq_some.mp hi
      have hitem : found = items[i]? := by
        by_cases hi : i < items.length
        · rw [List.getElem?_append_left (by simpa using hi), List.getElem?_map,
            List.getElem?_eq_getElem hi] at hfound
          rw [List.getElem?_eq_getElem hi]
          exact (Option.some.inj hfound).symm
        · rw [List.getElem?_append_right (by simpa using hi), List.length_map] at hfound
          rw [List.getElem?_eq_none (by omega)]
          exact List.eq_of_mem_replicate (List.mem_of_getElem? hfound)
      rw [hitem]
      exact finds_array hnodup hname
    · cases h

/-! ## What is read -/

theorem closed_of_fields? {names : List String} {record : Json} {found : List (Option Json)}
    (h : record.fields? names true = some found) : Closed names record := by
  cases record with
  | null | bool | number | string => cases h
  | array items =>
    rw [fields?] at h
    split at h
    · next hlength => exact .list hlength
    · cases h
  | object members =>
    have hread := mapM_of_fields? h
    rw [fields?] at h
    split at h
    · next hall =>
      have hknown := all_permitted_iff.mp hall
      refine .object hknown (List.nodup_iff_count_le_one.mpr fun key => ?_)
      by_cases hkey : key ∈ members.map Prod.fst
      · obtain ⟨member, hmember, rfl⟩ := List.mem_map.mp hkey
        obtain ⟨name, hname, hmember⟩ := hknown member hmember
        obtain ⟨value, hvalue, -⟩ := Traversal.exists_mem_zip_of_mapM hread hname
        rw [hmember, ← length_filter_eq_count]
        exact (field?_eq_some_iff.mp hvalue).1
      · rw [List.count_eq_zero.mpr hkey]
        exact Nat.zero_le 1
    · cases h

theorem exists_field?_of_nodup {members : List (Option String × Json)}
    (h : (members.map Prod.fst).Nodup) (name : String) :
    ∃ found, field? members name = some found := by
  have hlength := List.nodup_iff_count_le_one.mp h (some name)
  rw [← length_filter_eq_count] at hlength
  unfold field?
  generalize (members.filter fun member => member.1 == some name) = filtered at hlength
  match filtered, hlength with
  | [], _ => exact ⟨_, rfl⟩
  | [(_, value)], _ => exact ⟨_, rfl⟩

theorem exists_fields?_of_closed {names : List String} {record : Json} (h : Closed names record) :
    ∃ found, record.fields? names true = some found := by
  cases h with
  | list hlength => exact ⟨_, by rw [fields?, if_pos hlength]⟩
  | @object members hknown hdistinct =>
    have hread : names.mapM (field? members) =
        some (names.map fun name => (field? members name).getD none) := by
      rw [Traversal.mapM_eq_some_iff, List.forall₂_map_right_iff, List.forall₂_same]
      intro name _
      obtain ⟨value, hvalue⟩ := exists_field?_of_nodup hdistinct name
      rw [hvalue, Option.getD_some]
    exact ⟨_, (if_pos (all_permitted_iff.mpr hknown)).trans hread⟩

/-- A closed record is read, and every field is found with its value if it has one. -/
theorem fields?_closed_iff {names : List String} (hnodup : names.Nodup) {record : Json}
    {found : List (Option Json)} :
    record.fields? names true = some found ↔
      Closed names record ∧ List.Forall₂ (Finds names record) names found := by
  constructor
  · exact fun h => ⟨closed_of_fields? h, forall₂_finds hnodup h⟩
  · rintro ⟨hclosed, hfinds⟩
    obtain ⟨read, hread⟩ := exists_fields?_of_closed hclosed
    rw [hread, (finds_rightUnique names record).forall₂ (forall₂_finds hnodup hread) hfinds]

/-- A value that is no closed record is not read. -/
theorem Unfit.fields?_eq_none {names : List String} {record : Json} (h : Unfit names record) :
    record.fields? names true = none := by
  cases h with
  | @unknown members member hmember hname =>
    rw [fields?, if_neg]
    intro hall
    obtain ⟨name, hmem, hkey⟩ := all_permitted_iff.mp hall member hmember
    exact hname name hmem hkey
  | malformed hmalformed => exact hmalformed.fields?_eq_none
  | scalar hobject harray =>
    cases record with
    | null | bool | number | string => rfl
    | array items => exact absurd rfl (harray items)
    | object members => exact absurd rfl (hobject members)

end Conformance.Json
