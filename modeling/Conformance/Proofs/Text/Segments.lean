import Conformance.Text.Segments

set_option autoImplicit false

/-!
# Segments of longer lists

Cutting a list is compatible with what is done to lists: with appending at a separator, and with
dropping elements that are no separators.  Where two lists are appended without a separator
between them, the last piece of the one and the first piece of the other become one piece, so that
there is one piece less.
-/

namespace Conformance.Text

variable {α : Type} [DecidableEq α] {separator : α}

theorem segments_eq_splitOn (separator : α) (as : List α) :
    segments separator as = as.splitOn separator := by
  induction as with
  | nil => rfl
  | cons a as ih =>
    rw [segments, List.splitOn_cons_eq_if_modifyHead, ih]
    by_cases ha : a = separator
    · simp [ha]
    · cases hrest : as.splitOn separator with
      | nil => exact absurd hrest (List.splitOn_ne_nil _ _)
      | cons piece rest => simp [ha]

theorem segments_append_cons (separator : α) (as bs : List α) :
    segments separator (as ++ separator :: bs) =
      segments separator as ++ segments separator bs := by
  simp only [segments_eq_splitOn, List.splitOn_append_cons_self]

theorem segments_of_notMem {as : List α} (h : separator ∉ as) : segments separator as = [as] := by
  rw [segments_eq_splitOn, List.splitOn_eq_singleton h]

theorem segments_of_notMem_append_cons {as : List α} (h : separator ∉ as) (bs : List α) :
    segments separator (as ++ separator :: bs) = as :: segments separator bs := by
  rw [segments_append_cons, segments_of_notMem h, List.singleton_append]

omit [DecidableEq α] in
theorem notMem_intercalate {a : α} (ha : a ≠ separator) {pieces : List (List α)}
    (h : ∀ piece ∈ pieces, a ∉ piece) : a ∉ [separator].intercalate pieces := by
  induction pieces with
  | nil => simp
  | cons piece pieces ih =>
    have hrest := ih fun other hother => h other (List.mem_cons_of_mem _ hother)
    cases pieces with
    | nil => simpa using h piece
    | cons next pieces =>
      rw [List.intercalate_cons_cons]
      simp [h piece, ha, hrest]

/-- Pieces that are put together with separators are found again. -/
theorem segments_intercalate {pieces : List (List α)} (hne : pieces ≠ [])
    (h : ∀ piece ∈ pieces, separator ∉ piece) :
    segments separator ([separator].intercalate pieces) = pieces := by
  rw [segments_eq_splitOn, List.splitOn_intercalate separator h hne]

/-- Pieces that each end with a separator are found again, with nothing behind the last. -/
theorem segments_flatMap_concat {β : Type} {f : β → List α} {bs : List β}
    (h : ∀ b ∈ bs, separator ∉ f b) :
    segments separator (bs.flatMap fun b => f b ++ [separator]) = bs.map f ++ [[]] := by
  induction bs with
  | nil => rfl
  | cons b bs ih =>
    rw [List.flatMap_cons, List.append_assoc, List.singleton_append,
      segments_of_notMem_append_cons (h b (by simp)),
      ih fun other hother => h other (List.mem_cons_of_mem _ hother)]
    rfl

/-- Elements that are no separators may be dropped before or after cutting. -/
theorem segments_filter {p : α → Bool} (hp : p separator = true) (as : List α) :
    segments separator (as.filter p) = (segments separator as).map (List.filter p) := by
  induction as with
  | nil => rfl
  | cons a as ih =>
    by_cases ha : a = separator
    · subst ha
      simp [segments, hp, ih]
    · cases hrest : segments separator as with
      | nil => exact absurd hrest (segments_ne_nil _ _)
      | cons piece rest =>
        rw [hrest] at ih
        by_cases hpa : p a = true
        · simp [segments, ha, hpa, ih, hrest]
        · simp [segments, ha, hpa, ih, hrest]

/-- A piece stands in the list as it is. -/
theorem sublist_of_mem_segments (separator : α) (as : List α) :
    ∀ piece ∈ segments separator as, piece.Sublist as := by
  induction as with
  | nil => simp [segments]
  | cons a as ih =>
    simp only [segments]
    split
    · intro piece hpiece
      rcases List.mem_cons.mp hpiece with rfl | hpiece
      · exact List.nil_sublist _
      · exact (ih piece hpiece).cons a
    · split
      · next h => exact absurd h (segments_ne_nil separator as)
      · next piece rest h =>
        rw [h, List.forall_mem_cons] at ih
        intro other hother
        rcases List.mem_cons.mp hother with rfl | hother
        · exact ih.1.cons_cons a
        · exact (ih.2 other hother).cons a

/-- Where two lists meet, the pieces on both sides become one. -/
theorem exists_segments_append (separator : α) (as bs : List α) :
    ∃ front last first back, segments separator as = front ++ [last] ∧
      segments separator bs = first :: back ∧
      segments separator (as ++ bs) = front ++ (last ++ first) :: back := by
  induction as with
  | nil =>
    obtain ⟨first, back, hbs⟩ := List.exists_cons_of_ne_nil (segments_ne_nil separator bs)
    exact ⟨[], [], first, back, rfl, hbs, hbs⟩
  | cons a as ih =>
    obtain ⟨front, last, first, back, has, hbs, happend⟩ := ih
    by_cases ha : a = separator
    · exact ⟨[] :: front, last, first, back, by simp [segments, ha, has], hbs,
        by simp [segments, ha, happend]⟩
    · cases front with
      | nil =>
        exact ⟨[], a :: last, first, back, by simp [segments, ha, has], hbs,
          by simp [segments, ha, happend]⟩
      | cons piece front =>
        exact ⟨(a :: piece) :: front, last, first, back, by simp [segments, ha, has], hbs,
          by simp [segments, ha, happend]⟩

/-! ## Pieces that are not empty -/

/-- The pieces between separators that are not empty. -/
def fragments (separator : α) (as : List α) : List (List α) :=
  (segments separator as).filter (· ≠ [])

theorem fragments_append_cons (separator : α) (as bs : List α) :
    fragments separator (as ++ separator :: bs) =
      fragments separator as ++ fragments separator bs := by
  rw [fragments, segments_append_cons, List.filter_append, fragments, fragments]

/-- Without a separator between them, two lists have one piece less together. -/
theorem length_fragments_append {as bs : List α} {a b : α} (ha : a ≠ separator)
    (hb : b ≠ separator) :
    (fragments separator ((as ++ [a]) ++ b :: bs)).length + 1 =
      (fragments separator (as ++ [a])).length + (fragments separator (b :: bs)).length := by
  obtain ⟨front, last, first, back, hleft, hright, happend⟩ :=
    exists_segments_append separator (as ++ [a]) (b :: bs)
  have hlast : last ≠ [] := by
    obtain ⟨front', last', first', back', -, hsingle, hpieces⟩ :=
      exists_segments_append separator as [a]
    rw [segments_of_notMem (by simpa using Ne.symm ha)] at hsingle
    obtain ⟨rfl, rfl⟩ := List.cons.inj hsingle
    rw [hpieces] at hleft
    obtain ⟨-, hlast⟩ := List.append_inj' hleft rfl
    obtain ⟨rfl, -⟩ := List.cons.inj hlast
    simp
  have hfirst : first ≠ [] := by
    obtain ⟨piece, rest, hbs⟩ := List.exists_cons_of_ne_nil (segments_ne_nil separator bs)
    rw [segments, if_neg hb, hbs] at hright
    obtain ⟨rfl, -⟩ := List.cons.inj hright
    simp
  simp only [fragments, hleft, hright, happend]
  simp [hlast, hfirst]
  omega

end Conformance.Text
