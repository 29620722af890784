import Conformance.Proofs.Text.Items
import Mathlib.Data.Bool.AllAny

set_option autoImplicit false

/-!
# Lists in cells

What a cell lists is read off its segments one by one: an item is its segment without the white
space around it, and the segments behind the last item are blank (`lists_items`).  Conversely a list
is found again however it is written, with white space around its items and with commas and white
space behind the last (`items_written`).  So the lists that cells can hold are those of trimmed
texts without a comma that do not end in an empty item (`items_inverts`).
-/

namespace Conformance.Text

/-! ## White space at the ends -/

/-- All characters are white space. -/
def AllBlank (cs : List Char) : Prop := ∀ c ∈ cs, isBlank c = true

instance (cs : List Char) : Decidable (AllBlank cs) :=
  List.decidableBAll (fun c => isBlank c = true) cs

theorem trimChars_eq_nil_iff {cs : List Char} : trimChars cs = [] ↔ AllBlank cs := by
  have hleft : trimLeft cs = [] ↔ AllBlank cs := by
    rw [trimLeft, List.dropWhile_eq_nil_iff, AllBlank]
  rw [← hleft]
  constructor
  · intro h
    rcases dropWhile_isBlank_cases cs with hnil | ⟨c, rest, hcons, hc⟩
    · exact hnil
    -- the character that is no blank stays
    · have hall := List.rdropWhile_eq_nil_iff.mp (show (trimLeft cs).rdropWhile isBlank = [] from h)
      have hblank := hall c (by rw [trimLeft, hcons]; exact List.mem_cons_self)
      rw [hc] at hblank
      cases hblank
  · intro h
    rw [trimChars, h]
    rfl

theorem trimLeft_append_of_allBlank {front : List Char} (h : AllBlank front) (cs : List Char) :
    trimLeft (front ++ cs) = trimLeft cs :=
  List.dropWhile_append_of_pos h

theorem trimRight_append_of_allBlank {back : List Char} (h : AllBlank back) (cs : List Char) :
    trimRight (cs ++ back) = trimRight cs := by
  rw [trimRight, List.reverse_append, List.dropWhile_append_of_pos, trimRight]
  intro c hc
  exact h c (List.mem_reverse.mp hc)

/-- White space around a text does not show once it is trimmed. -/
theorem trimChars_padded {front back : List Char} (hfront : AllBlank front)
    (hback : AllBlank back) (cs : List Char) :
    trimChars (front ++ cs ++ back) = trimChars cs := by
  rw [List.append_assoc, trimChars, trimLeft_append_of_allBlank hfront, trimLeft,
    List.dropWhile_append]
  split
  · next hnil =>
    -- nothing but white space all along
    have hcs : AllBlank cs := List.dropWhile_eq_nil_iff.mp (List.isEmpty_iff.mp hnil)
    rw [List.dropWhile_eq_nil_iff.mpr hback, trimChars_eq_nil_iff.mpr hcs]
    rfl
  · rw [trimRight_append_of_allBlank hback, trimChars, trimLeft]

/-! ## Empty items at the end -/

/-- A list is its items up to the last that is not empty, and empty ones behind. -/
theorem exists_dropEmptyTail_append (pieces : List (List Char)) :
    ∃ tail, pieces = dropEmptyTail pieces ++ tail ∧ ∀ piece ∈ tail, piece = [] := by
  refine ⟨pieces.rtakeWhile List.isEmpty, List.rdropWhile_append_rtakeWhile.symm, ?_⟩
  intro piece hpiece
  exact List.isEmpty_iff.mp (List.mem_rtakeWhile_imp hpiece)

theorem getLast?_dropEmptyTail (pieces : List (List Char)) :
    (dropEmptyTail pieces).getLast? ≠ some [] := by
  have hhead := List.head?_dropWhile_not List.isEmpty pieces.reverse
  rw [dropEmptyTail, List.getLast?_reverse]
  intro h
  rw [h] at hhead
  cases hhead

theorem dropEmptyTail_append (pieces : List (List Char)) {tail : List (List Char)}
    (htail : ∀ piece ∈ tail, piece = []) :
    dropEmptyTail (pieces ++ tail) = dropEmptyTail pieces := by
  rw [dropEmptyTail, List.reverse_append, List.dropWhile_append_of_pos, dropEmptyTail]
  intro piece hpiece
  rw [htail piece (List.mem_reverse.mp hpiece), List.isEmpty_nil]

theorem dropEmptyTail_of_getLast? {pieces : List (List Char)} (h : pieces.getLast? ≠ some []) :
    dropEmptyTail pieces = pieces := by
  refine List.rdropWhile_eq_self_iff.mpr ?_
  intro hne hempty
  rw [List.getLast?_eq_some_getLast hne, List.isEmpty_iff.mp hempty] at h
  exact h rfl

/-! ## What a cell lists -/

/-- The lists that cells can hold: trimmed texts without a comma, the last of them not empty. -/
structure Listable (listed : List String) : Prop where
  trimmed : ∀ item ∈ listed, trim item = item
  undivided : ∀ item ∈ listed, ',' ∉ item.toList
  last_ne : listed.getLast? ≠ some ""

/-- A cell lists some items: each is its segment without the white space around it, and the
segments behind the last item are blank. -/
structure Lists (cell : String) (listed : List String) : Prop where
  item : ∀ (i : Nat) (item : String), listed[i]? = some item →
    ∃ segment, (segments ',' cell.toList)[i]? = some segment ∧
      item = trim (String.ofList segment)
  blank : ∀ (i : Nat) (segment : List Char), listed.length ≤ i →
    (segments ',' cell.toList)[i]? = some segment → AllBlank segment

theorem listable_items (cell : String) : Listable (items cell) where
  trimmed := by
    intro item hitem
    obtain ⟨chars, hchars, rfl⟩ := List.mem_map.mp hitem
    obtain ⟨segment, -, rfl⟩ := List.mem_map.mp (dropEmptyTail_subset _ hchars)
    rw [trim, String.toList_ofList, trimChars_trimChars]
  undivided := fun _ => notMem_of_mem_items
  last_ne := by
    rw [items, List.getLast?_map]
    intro h
    obtain ⟨chars, hlast, hchars⟩ := Option.map_eq_some_iff.mp h
    rw [String.ofList_eq_empty_iff.mp hchars] at hlast
    exact getLast?_dropEmptyTail _ hlast

theorem lists_items (cell : String) : Lists cell (items cell) := by
  obtain ⟨tail, happend, htail⟩ :=
    exists_dropEmptyTail_append ((segments ',' cell.toList).map trimChars)
  have hlength : (items cell).length = (itemChars cell.toList).length := List.length_map _
  constructor
  · intro i item hitem
    rw [items, List.getElem?_map] at hitem
    obtain ⟨chars, hchars, rfl⟩ := Option.map_eq_some_iff.mp hitem
    have hsegment : ((segments ',' cell.toList).map trimChars)[i]? = some chars := by
      obtain ⟨hlt, -⟩ := List.getElem?_eq_some_iff.mp hchars
      rw [happend]
      exact (List.getElem?_append_left hlt).trans hchars
    rw [List.getElem?_map] at hsegment
    obtain ⟨segment, hget, rfl⟩ := Option.map_eq_some_iff.mp hsegment
    exact ⟨segment, hget, by rw [trim, String.toList_ofList]⟩
  · intro i segment hi hget
    have htrimmed : ((segments ',' cell.toList).map trimChars)[i]? = some (trimChars segment) := by
      rw [List.getElem?_map, hget, Option.map_some]
    rw [hlength, itemChars] at hi
    rw [happend, List.getElem?_append_right hi] at htrimmed
    exact trimChars_eq_nil_iff.mp (htail _ (List.mem_of_getElem? htrimmed))

/-! ## Writing a list -/

/-- An item as a cell may hold it, with white space before and after it. -/
structure PaddedItem where
  before : String
  item : String
  after : String
  before_blank : AllBlank before.toList
  after_blank : AllBlank after.toList

namespace PaddedItem

/-- The written form of the item. -/
def text (padded : PaddedItem) : String := padded.before ++ padded.item ++ padded.after

theorem trimChars_text (padded : PaddedItem) :
    trimChars padded.text.toList = trimChars padded.item.toList := by
  rw [text, String.toList_append, String.toList_append,
    trimChars_padded padded.before_blank padded.after_blank]

/-- The item alone. -/
def bare (item : String) : PaddedItem := ⟨"", item, "", by decide, by decide⟩

@[simp] theorem item_bare (item : String) : (bare item).item = item := rfl

@[simp] theorem text_bare (item : String) : (bare item).text = item := by
  simp [text, bare]

end PaddedItem

/-- The characters that may stand behind the last item of a list. -/
def IsFiller (c : Char) : Prop := c = ',' ∨ isBlank c = true

instance (c : Char) : Decidable (IsFiller c) :=
  inferInstanceAs (Decidable (c = ',' ∨ isBlank c = true))

theorem ne_comma_of_isBlank {c : Char} (h : isBlank c = true) : c ≠ ',' := by
  rintro rfl
  exact absurd h (by decide)

theorem notMem_of_allBlank {cs : List Char} (h : AllBlank cs) : ',' ∉ cs :=
  fun hcomma => ne_comma_of_isBlank (h _ hcomma) rfl

theorem allBlank_of_mem_segments {filler : List Char} (h : ∀ c ∈ filler, IsFiller c) :
    ∀ segment ∈ segments ',' filler, AllBlank segment := by
  intro segment hsegment c hc
  rcases h c ((sublist_of_mem_segments ',' filler segment hsegment).subset hc) with rfl | hblank
  · exact absurd hc (notMem_of_mem_segments ',' filler segment hsegment)
  · exact hblank

/-- Commas and white space at the end of a cell add nothing to what it lists. -/
theorem itemChars_append_filler (cs : List Char) {filler : List Char}
    (h : ∀ c ∈ filler, IsFiller c) : itemChars (cs ++ filler) = itemChars cs := by
  obtain ⟨front, last, first, back, hcs, hfiller, happend⟩ := exists_segments_append ',' cs filler
  have hblank := allBlank_of_mem_segments h
  rw [hfiller, List.forall_mem_cons] at hblank
  have hnothing : AllBlank [] := by simp [AllBlank]
  have hlast : trimChars (last ++ first) = trimChars last := trimChars_padded hnothing hblank.1 last
  have hback : ∀ piece ∈ back.map trimChars, piece = [] := by
    intro piece hpiece
    obtain ⟨segment, hsegment, rfl⟩ := List.mem_map.mp hpiece
    exact trimChars_eq_nil_iff.mpr (hblank.2 segment hsegment)
  calc itemChars (cs ++ filler)
      = dropEmptyTail ((front ++ [last]).map trimChars ++ back.map trimChars) := by
        rw [itemChars, happend]
        simp [hlast]
    _ = itemChars cs := by rw [dropEmptyTail_append _ hback, itemChars, hcs]

theorem notMem_text {padded : PaddedItem} (h : ',' ∉ padded.item.toList) :
    ',' ∉ padded.text.toList := by
  rw [PaddedItem.text, String.toList_append, String.toList_append]
  simp [h, notMem_of_allBlank padded.before_blank, notMem_of_allBlank padded.after_blank]

theorem itemChars_joinItems {padded : List PaddedItem}
    (h : Listable (padded.map PaddedItem.item)) :
    itemChars (joinItems (padded.map PaddedItem.text)).toList =
      padded.map fun item => item.item.toList := by
  cases padded with
  | nil => rfl
  | cons first rest =>
    have hundivided : ∀ piece ∈ ((first :: rest).map PaddedItem.text).map String.toList,
        ',' ∉ piece := by
      simp only [List.forall_mem_map]
      exact fun item hitem => notMem_text (h.undivided _ (List.mem_map_of_mem hitem))
    have htrimmed : ((first :: rest).map fun item => trimChars item.text.toList) =
        (first :: rest).map fun item => item.item.toList := by
      refine List.map_congr_left fun item hitem => ?_
      rw [PaddedItem.trimChars_text, ← toList_trim, h.trimmed _ (List.mem_map_of_mem hitem)]
    have hlast : ((first :: rest).map fun item => item.item.toList).getLast? ≠ some [] := by
      intro hnil
      refine h.last_ne ?_
      rw [List.getLast?_map] at hnil ⊢
      obtain ⟨item, hitem, hchars⟩ := Option.map_eq_some_iff.mp hnil
      rw [hitem, Option.map_some, String.toList_eq_nil_iff.mp hchars]
    rw [itemChars, joinItems, String.toList_intercalate,
      show ",".toList = [','] from rfl, segments_intercalate (by simp) hundivided, List.map_map,
      List.map_map]
    exact (congrArg dropEmptyTail htrimmed).trans (dropEmptyTail_of_getLast? hlast)

/-- A list is found again however it is written. -/
theorem items_written {padded : List PaddedItem} {filler : String}
    (hlist : Listable (padded.map PaddedItem.item)) (hfiller : ∀ c ∈ filler.toList, IsFiller c) :
    items (joinItems (padded.map PaddedItem.text) ++ filler) = padded.map PaddedItem.item := by
  rw [items, String.toList_append, itemChars_append_filler _ hfiller, itemChars_joinItems hlist,
    List.map_map]
  simp

theorem items_joinItems {listed : List String} (h : Listable listed) :
    items (joinItems listed) = listed := by
  have hitem : (listed.map PaddedItem.bare).map PaddedItem.item = listed := by
    simp [Function.comp_def]
  have htext : (listed.map PaddedItem.bare).map PaddedItem.text = listed := by
    simp [Function.comp_def]
  have hlist : Listable ((listed.map PaddedItem.bare).map PaddedItem.item) := by rwa [hitem]
  have hfiller : ∀ c ∈ "".toList, IsFiller c := by simp
  have hwritten := items_written hlist hfiller
  rwa [htext, hitem, String.append_empty] at hwritten

/-- Every cell lists the trimmed texts of its segments up to the last that is not blank.  The lists
that cells hold are those of trimmed texts without a comma that do not end in an empty item, and
each of them is found again from every way of writing it. -/
theorem items_inverts :
    (∀ cell, Listable (items cell) ∧ Lists cell (items cell) ∧
      items (joinItems (items cell)) = items cell) ∧
    (∀ listed, Listable listed ↔ ∃ cell, items cell = listed) ∧
    ∀ (padded : List PaddedItem) (filler : String), Listable (padded.map PaddedItem.item) →
      (∀ c ∈ filler.toList, IsFiller c) →
        items (joinItems (padded.map PaddedItem.text) ++ filler) =
          padded.map PaddedItem.item := by
  refine ⟨?_, ?_, ?_⟩
  · intro cell
    exact ⟨listable_items cell, lists_items cell, items_joinItems (listable_items cell)⟩
  · intro listed
    constructor
    · intro h
      exact ⟨joinItems listed, items_joinItems h⟩
    · rintro ⟨cell, rfl⟩
      exact listable_items cell
  · intro padded filler hlist hfiller
    exact items_written hlist hfiller

/-- An empty item between two others, and white space that is not ASCII. -/
def spacedItems : List PaddedItem :=
  [⟨" ", "a b", "\u00a0", by decide, by decide⟩, PaddedItem.bare "",
    ⟨"\t", "c", "", by decide, by decide⟩]

theorem listable_spacedItems : Listable (spacedItems.map PaddedItem.item) :=
  ⟨by decide, by decide, by decide⟩

theorem spacedItems_inverts :
    Listable (spacedItems.map PaddedItem.item) ∧ (∀ c ∈ " ,\u3000, ".toList, IsFiller c) ∧
      items (joinItems (spacedItems.map PaddedItem.text) ++ " ,\u3000, ") = ["a b", "", "c"] :=
  have hfiller : ∀ c ∈ " ,\u3000, ".toList, IsFiller c := List.all_iff_forall_prop.mp (by decide)
  ⟨listable_spacedItems, hfiller,
    items_inverts.2.2 spacedItems " ,\u3000, " listable_spacedItems hfiller⟩

end Conformance.Text
