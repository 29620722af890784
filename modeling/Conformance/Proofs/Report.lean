import Mathlib.Data.List.Basic

set_option autoImplicit false

/-!
# Reports on a list

Rows are reported on one after the other.  What is said about a row may depend on the rows before
it, since a definition is a repetition only when something came earlier, but never on the rows
after it.  So the report on a longer list begins with the report on its front (`running_append`),
and elements about which nothing depends on the past are reported on one by one
(`running_eq_flatMap`).
-/

namespace Conformance.Report

variable {α β γ : Type}

/-- What is said about the elements of a list, in order, when `earlier` came before the list. -/
def running (remarks : List α → α → List β) : List α → List α → List β
  | _, [] => []
  | earlier, a :: as => remarks earlier a ++ running remarks (earlier ++ [a]) as

theorem running_append (remarks : List α → α → List β) (earlier as bs : List α) :
    running remarks earlier (as ++ bs) =
      running remarks earlier as ++ running remarks (earlier ++ as) bs := by
  induction as generalizing earlier with
  | nil => simp [running]
  | cons a as ih => simp [running, ih]

/-- A report that looks back at nothing is made element by element. -/
theorem running_eq_flatMap {remarks : List α → α → List β} {f : α → List β} {earlier as : List α}
    (h : ∀ before a after, as = before ++ a :: after → remarks (earlier ++ before) a = f a) :
    running remarks earlier as = as.flatMap f := by
  induction as generalizing earlier with
  | nil => rfl
  | cons a as ih =>
    have hhead : remarks earlier a = f a := by simpa using h [] a as rfl
    have htail : running remarks (earlier ++ [a]) as = as.flatMap f := by
      refine ih fun before b after hsplit => ?_
      have := h (a :: before) b after (by rw [hsplit, List.cons_append])
      rwa [List.append_assoc, List.singleton_append]
    rw [running, hhead, htail, List.flatMap_cons]

/-- Everything in a report is said about some element. -/
theorem exists_of_mem_running {remarks : List α → α → List β} {earlier as : List α} {b : β}
    (h : b ∈ running remarks earlier as) : ∃ before a, b ∈ remarks before a := by
  induction as generalizing earlier with
  | nil => cases h
  | cons a as ih =>
    rcases List.mem_append.mp h with h | h
    · exact ⟨earlier, a, h⟩
    · exact ih h

theorem map_running (g : β → γ) (remarks : List α → α → List β) (earlier as : List α) :
    (running remarks earlier as).map g = running (fun earlier a => (remarks earlier a).map g) earlier as := by
  induction as generalizing earlier with
  | nil => rfl
  | cons a as ih => rw [running, running, List.map_append, ih]

theorem filter_running (p : β → Bool) (remarks : List α → α → List β) (earlier as : List α) :
    (running remarks earlier as).filter p =
      running (fun earlier a => (remarks earlier a).filter p) earlier as := by
  induction as generalizing earlier with
  | nil => rfl
  | cons a as ih => rw [running, running, List.filter_append, ih]

/-- A report on what is read from the elements is a report on the readings. -/
theorem running_filterMap {read : α → Option γ} {remarks : List α → α → List β}
    {others : List γ → γ → List β}
    (h : ∀ earlier a,
      remarks earlier a = (read a).elim [] fun c => others (earlier.filterMap read) c)
    (earlier as : List α) :
    running remarks earlier as = running others (earlier.filterMap read) (as.filterMap read) := by
  induction as generalizing earlier with
  | nil => rfl
  | cons a as ih =>
    rw [running, h, ih, List.filterMap_append]
    cases hread : read a with
    | none => simp [hread]
    | some c => simp [hread, running]

/-- A report on a list, element by element.  What may be said about an element, when `earlier` came
before the list, is settled by `about`, not computed. -/
inductive Covers (about : List α → α → List β → Prop) : List α → List α → List β → Prop where
  | nil (earlier : List α) : Covers about earlier [] []
  | cons {earlier as : List α} {a : α} {said rest : List β} (head : about earlier a said)
      (tail : Covers about (earlier ++ [a]) as rest) : Covers about earlier (a :: as) (said ++ rest)

/-- Where only one thing may be said about each element, there is only one report on the list. -/
theorem covers_iff {about : List α → α → List β → Prop} {remarks : List α → α → List β}
    {earlier as : List α} {report : List β}
    (h : ∀ before a after, as = before ++ a :: after →
      ∀ said, about (earlier ++ before) a said ↔ said = remarks (earlier ++ before) a) :
    Covers about earlier as report ↔ report = running remarks earlier as := by
  induction as generalizing earlier report with
  | nil =>
    constructor
    · rintro ⟨⟩
      rfl
    · rintro rfl
      exact .nil earlier
  | cons a as ih =>
    have hhead : ∀ said, about earlier a said ↔ said = remarks earlier a := by
      simpa using h [] a as rfl
    have htail : ∀ rest, Covers about (earlier ++ [a]) as rest ↔
        rest = running remarks (earlier ++ [a]) as := by
      refine fun rest => ih fun before b after hsplit => ?_
      have := h (a :: before) b after (by rw [hsplit, List.cons_append])
      rwa [List.append_assoc, List.singleton_append]
    constructor
    · rintro (_ | ⟨head, tail⟩)
      rw [(hhead _).mp head, (htail _).mp tail, running]
    · rintro rfl
      exact .cons ((hhead _).mpr rfl) ((htail _).mpr rfl)

/-- Everything in a report is said about some element, after those before it. -/
theorem Covers.exists_of_mem {about : List α → α → List β → Prop} {earlier as : List α}
    {report : List β} (h : Covers about earlier as report) {b : β} (hb : b ∈ report) :
    ∃ before a after said, as = before ++ a :: after ∧ about (earlier ++ before) a said ∧
      b ∈ said := by
  induction h with
  | nil => cases hb
  | @cons earlier as a said rest head _ ih =>
    rcases List.mem_append.mp hb with hb | hb
    · exact ⟨[], a, as, said, rfl, by rwa [List.append_nil], hb⟩
    · obtain ⟨before, c, after, more, rfl, habout, hmem⟩ := ih hb
      rw [List.append_assoc, List.singleton_append] at habout
      exact ⟨a :: before, c, after, more, rfl, habout, hmem⟩

end Conformance.Report
