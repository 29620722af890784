set_option autoImplicit false

/-!
# Segments

The pieces of a list between the occurrences of a separator: items between commas, names between
slashes, statements between semicolons.
-/

namespace Conformance.Text

variable {α : Type} [DecidableEq α]

/-- The pieces between separators; a list without a separator is one piece. -/
def segments (separator : α) : List α → List (List α)
  | [] => [[]]
  | a :: as =>
    if a = separator then [] :: segments separator as
    else
      match segments separator as with
      | [] => [[a]]
      | piece :: rest => (a :: piece) :: rest

/-- There is always at least one piece. -/
theorem segments_ne_nil (separator : α) (as : List α) : segments separator as ≠ [] := by
  cases as with
  | nil => simp [segments]
  | cons a as =>
    simp only [segments]
    split
    · simp
    · split <;> simp

/-- No piece holds the separator. -/
theorem notMem_of_mem_segments (separator : α) (as : List α) :
    ∀ piece ∈ segments separator as, separator ∉ piece := by
  induction as with
  | nil => simp [segments]
  | cons a as ih =>
    simp only [segments]
    split
    · intro piece hpiece
      rcases List.mem_cons.mp hpiece with rfl | hpiece
      · simp
      · exact ih piece hpiece
    · next ha =>
      split
      · next h => exact absurd h (segments_ne_nil separator as)
      · next piece rest h =>
        rw [h] at ih
        intro other hother
        rcases List.mem_cons.mp hother with rfl | hother
        · have := ih piece (by simp)
          simp [this, Ne.symm ha]
        · exact ih other (List.mem_cons_of_mem _ hother)

end Conformance.Text
