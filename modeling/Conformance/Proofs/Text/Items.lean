import Conformance.Proofs.Text.Segments
import Conformance.Text.Items
import Mathlib.Data.List.DropRight

set_option autoImplicit false

/-!
# Single items

A text that holds no comma is a list of one item, itself without white space around it
(`items_of_notMem`).  A comma always divides, as nothing takes its meaning away: no item of any list
holds one (`notMem_of_mem_items`).  So the items that a cell can list are the trimmed texts without
a comma, and a text that is not empty and holds neither white space nor a comma is one item as it
stands (`Unbroken.items_eq`).
-/

namespace Conformance.Text

/-! ## Trimming -/

theorem trimChars_trimChars (cs : List Char) : trimChars (trimChars cs) = trimChars cs := by
  have hleft : trimLeft (trimChars cs) = trimChars cs := by
    rcases dropWhile_isBlank_cases cs with hblank | ⟨c, rest, hfirst, hc⟩
    · simp [trimChars, trimLeft, trimRight, hblank]
    -- what is left of a text that begins with `c` is nothing or begins with `c`
    · have hfront : trimChars cs <+: c :: rest := by
        rw [trimChars, trimLeft, hfirst]
        exact List.rdropWhile_prefix isBlank _
      rcases List.prefix_cons_iff.mp hfront with hnil | ⟨more, hcons, -⟩
      · rw [hnil]
        rfl
      · rw [hcons, trimLeft, List.dropWhile_cons_of_neg (by simp [hc])]
  rw [trimChars, hleft, trimChars, trimRight_trimRight]

@[simp] theorem trim_trim (s : String) : trim (trim s) = trim s := by
  rw [trim, toList_trim, trimChars_trimChars, trim]

/-- Trimming brings in nothing new. -/
theorem trimChars_subset (cs : List Char) : trimChars cs ⊆ cs :=
  List.Subset.trans (List.rdropWhile_prefix isBlank _).subset (List.dropWhile_suffix isBlank).subset

theorem trimChars_eq_self {cs : List Char} (h : ∀ c ∈ cs, isBlank c = false) :
    trimChars cs = cs := by
  have hkeep : ∀ {ds : List Char}, (∀ c ∈ ds, isBlank c = false) → ds.dropWhile isBlank = ds := by
    intro ds hds
    cases ds with
    | nil => rfl
    | cons c ds => rw [List.dropWhile_cons_of_neg (by simp [hds c])]
  rw [trimChars, trimRight, trimLeft, hkeep h,
    hkeep fun c hc => h c (List.mem_reverse.mp hc), List.reverse_reverse]

/-! ## Items -/

theorem dropEmptyTail_singleton {item : List Char} (h : item ≠ []) :
    dropEmptyTail [item] = [item] := by
  simp [dropEmptyTail, h]

theorem dropEmptyTail_subset (pieces : List (List Char)) : dropEmptyTail pieces ⊆ pieces :=
  (List.rdropWhile_prefix List.isEmpty _).subset

/-- A text without a comma is one item. -/
theorem items_of_notMem {s : String} (hcomma : ',' ∉ s.toList) (hne : trim s ≠ "") :
    items s = [trim s] := by
  have hchars : trimChars s.toList ≠ [] := by
    intro hnil
    exact hne (by rw [trim, hnil])
  rw [items, itemChars, segments_of_notMem hcomma, List.map_singleton,
    dropEmptyTail_singleton hchars, List.map_singleton, trim]

/-- No item holds a comma. -/
theorem notMem_of_mem_items {s item : String} (h : item ∈ items s) : ',' ∉ item.toList := by
  obtain ⟨chars, hchars, rfl⟩ := List.mem_map.mp h
  obtain ⟨piece, hpiece, rfl⟩ := List.mem_map.mp (dropEmptyTail_subset _ hchars)
  rw [String.toList_ofList]
  intro hcomma
  exact notMem_of_mem_segments ',' s.toList piece hpiece (trimChars_subset piece hcomma)

/-! ## Unbroken texts -/

/-- The text is not empty and holds neither white space nor a comma. -/
structure Unbroken (s : String) : Prop where
  ne : s ≠ ""
  isBlank : ∀ c ∈ s.toList, Text.isBlank c = false
  comma : ',' ∉ s.toList

instance (s : String) : Decidable (Unbroken s) :=
  decidable_of_iff (s ≠ "" ∧ (s.toList.all fun c => !Text.isBlank c) = true ∧ ',' ∉ s.toList)
    ⟨fun ⟨hne, hblank, hcomma⟩ => ⟨hne, by simpa using hblank, hcomma⟩,
      fun h => ⟨h.ne, by simpa using h.isBlank, h.comma⟩⟩

namespace Unbroken

variable {s : String}

theorem trim_eq (h : Unbroken s) : trim s = s := by
  rw [trim, trimChars_eq_self h.isBlank, String.ofList_toList]

theorem items_eq (h : Unbroken s) : items s = [s] := by
  rw [items_of_notMem h.comma (by rw [h.trim_eq]; exact h.ne), h.trim_eq]

end Unbroken

end Conformance.Text
