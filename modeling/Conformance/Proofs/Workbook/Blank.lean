import Conformance.Proofs.Catalog.Report
import Conformance.Proofs.Number.Identity
import Conformance.Proofs.TestCase.Assembly

set_option autoImplicit false

/-!
# Blank cells and rows

Whether a cell is blank can be told from the text it shows: only empty cells and texts of white
space show nothing once they are trimmed, since whatever a number or a truth value shows is unbroken
(`unbroken_shown`).  So a row without content is one that has no text in any column
(`hasContent_eq_false_iff`), and these rows are the ones that leave no trace (`addRows_cons_eq_iff`,
for test cases and for steps).
-/

namespace Conformance

/-! ## Cells -/

/-- Every number is written in one piece, also those that are not finite. -/
theorem Binary64.unbroken_numeral (x : Binary64) : Text.Unbroken x.numeral := by
  by_cases hx : x.isFinite = true
  · obtain ⟨n, htext, -⟩ := exists_plain_numeral hx
    rw [← htext]
    exact n.unbroken_text
  · rw [numeral, if_neg hx]
    split
    · split <;> decide
    · decide

namespace Cell

variable {cell : Cell}

theorem unbroken_shown (htext : ∀ s, cell ≠ .text s) (hempty : cell ≠ .empty) :
    Text.Unbroken cell.shown := by
  cases cell with
  | empty => exact absurd rfl hempty
  | text s => exact absurd rfl (htext s)
  | number x => exact x.unbroken_numeral
  | bool b => cases b <;> decide

theorem isBlank_iff (cell : Cell) : cell.isBlank = true ↔ Text.trim cell.shown = "" := by
  have hshown : (∀ s, cell ≠ .text s) → cell ≠ .empty → Text.trim cell.shown ≠ "" := by
    intro htext hempty
    have hunbroken := unbroken_shown htext hempty
    rw [hunbroken.trim_eq]
    exact hunbroken.ne
  cases cell with
  | empty => simp [isBlank, shown, Text.trim]
  | text s => exact beq_iff_eq
  | number x => simpa [isBlank] using hshown
  | bool b => simpa [isBlank] using hshown

end Cell

/-! ## Rows -/

/-- A row has no content when none of its columns has a text. -/
theorem Row.hasContent_eq_false_iff {row : Row} :
    row.hasContent = false ↔ ∀ column, row.field column = "" := by
  simp only [hasContent, List.any_eq_false, Bool.not_eq_true', Bool.not_eq_false,
    Cell.isBlank_iff]
  constructor
  · intro h column
    cases hcell : row[column]? with
    | none => exact field_eq_empty_of_length_le (List.getElem?_eq_none_iff.mp hcell)
    | some cell =>
      rw [field, Row.cell, hcell]
      exact h cell (List.mem_of_getElem? hcell)
  · intro h cell hcell
    obtain ⟨column, hcolumn⟩ := List.mem_iff_getElem?.mp hcell
    have hfield := h column
    rwa [field, Row.cell, hcolumn] at hfield

namespace TestCase

/-- A row that changes neither the test cases nor the issues has no text in any column. -/
theorem hasContent_of_addRows {catalog : Catalog} {earlier : List TestCase} {row : SheetRow}
    (h : addRows catalog earlier [row] = .ok earlier) : row.cells.hasContent = false := by
  rw [addRows] at h
  cases hread : ofRow? catalog row with
  | error error =>
    rw [hread] at h
    cases congrArg Audit.outcome h
  | ok found =>
    rw [hread] at h
    have hissues : rowIssues earlier row found ++ [] = [] := congrArg Audit.issues h
    have hcases : earlier ++ found.toList = earlier := Except.ok.inj (congrArg Audit.outcome h)
    obtain rfl : found = none := Option.toList_eq_nil_iff.mp (List.append_right_eq_self.mp hcases)
    cases hcontent : row.cells.hasContent with
    | false => rfl
    | true => simp [rowIssues, hcontent] at hissues

/-- The reading of the overview is the same without a row exactly if no column of it has a text. -/
theorem addRows_cons_eq_iff {catalog : Catalog} {earlier : List TestCase} {row : SheetRow} :
    (∀ rows, addRows catalog earlier (row :: rows) = addRows catalog earlier rows) ↔
      ∀ column, row.cells.field column = "" := by
  rw [← Row.hasContent_eq_false_iff]
  constructor
  · intro h
    exact hasContent_of_addRows (h [])
  · intro hcontent rows
    have hfield := Row.hasContent_eq_false_iff.mp hcontent
    have hread : ofRow? catalog row = .ok none :=
      (ofRow?_of_caseId_eq (hfield _)).trans (if_pos (hfield _))
    rw [addRows, hread]
    simp [rowIssues, hcontent, Audit.bind]

end TestCase

namespace Catalog

/-- Inserting a step changes the catalog or is reported. -/
theorem insert_ne_ok (c : Catalog) (step : TestStep) (policy : DuplicatePolicy) :
    c.insert step policy ≠ .ok c := by
  intro h
  cases hheld : c.get? step.id with
  | none =>
    rw [insert_of_get?_eq_none policy hheld] at h
    have hids : c.ids ++ [step.id] = c.ids := by
      rw [← ids_append c step hheld]
      exact congrArg ids (Except.ok.inj (congrArg Audit.outcome h))
    simp at hids
  | some held =>
    have hissues := congrArg Audit.issues h
    rw [issues_insert, hheld] at hissues
    cases policy with
    | reject =>
      rw [insert_reject hheld] at h
      cases congrArg Audit.outcome h
    | lastWins | firstWins => cases hissues

/-- The scan of the category sheets is the same without a row exactly if no column of it has a
text. -/
theorem addRows_cons_eq_iff {policy : DuplicatePolicy} {c : Catalog} {row : SheetRow} :
    (∀ rows, addRows policy c (row :: rows) = addRows policy c rows) ↔
      ∀ column, row.cells.field column = "" := by
  rw [← Row.hasContent_eq_false_iff]
  constructor
  · intro h
    have hrow : addRow policy c row = .ok c := (addRow policy c row).bind_ok.symm.trans (h [])
    by_cases hid : row.stepId = ""
    · rw [addRow, TestStep.ofRow?_eq, if_pos hid] at hrow
      cases hcontent : row.cells.hasContent with
      | false => rfl
      | true =>
        simp only [hcontent, if_true] at hrow
        cases congrArg Audit.issues hrow
    · rw [addRow_of_stepId_ne policy c hid] at hrow
      exact absurd hrow (c.insert_ne_ok row.step policy)
  · intro hcontent rows
    have hid : row.stepId = "" := Row.hasContent_eq_false_iff.mp hcontent _
    rw [addRows, addRow, TestStep.ofRow?_eq, if_pos hid]
    simp [hcontent]

end Catalog

namespace Cell

/-- A cell is blank exactly if nothing is left of the text it shows once that is trimmed.  So the
rows that are passed over without an issue, in the overview and in the category sheets, are those
that have no text in any column.  And only a cell that holds a text can list several items: any
other cell shows one item as it stands, or nothing if it is empty. -/
theorem blank_agrees :
    (∀ cell : Cell, cell.isBlank = true ↔ Text.trim cell.shown = "") ∧
    (∀ (catalog : Catalog) (earlier : List TestCase) (row : SheetRow),
      (∀ rows, TestCase.addRows catalog earlier (row :: rows) =
        TestCase.addRows catalog earlier rows) ↔ ∀ column, row.cells.field column = "") ∧
    (∀ (policy : DuplicatePolicy) (catalog : Catalog) (row : SheetRow),
      (∀ rows, Catalog.addRows policy catalog (row :: rows) =
        Catalog.addRows policy catalog rows) ↔ ∀ column, row.cells.field column = "") ∧
    ∀ (row : Row) (column : Nat) (cell : Cell), row.cell column = cell → (∀ s, cell ≠ .text s) →
      Text.trim cell.shown = cell.shown ∧
        Text.items (row.field column) = if cell = .empty then [] else [cell.shown] := by
  refine ⟨isBlank_iff, fun _ _ _ => TestCase.addRows_cons_eq_iff,
    fun _ _ _ => Catalog.addRows_cons_eq_iff, ?_⟩
  rintro row column cell hcell htext
  rw [Row.field, hcell]
  by_cases hempty : cell = .empty
  · subst hempty
    exact ⟨by decide, by decide⟩
  · have hshown := unbroken_shown htext hempty
    rw [if_neg hempty, hshown.trim_eq]
    exact ⟨rfl, hshown.items_eq⟩

/-- Minus infinity. -/
def lowest : Binary64 := ⟨0xFFF0000000000000⟩

theorem lowest_agrees :
    Row.cell [.bool true, .number lowest] 1 = .number lowest ∧ (∀ s, .number lowest ≠ text s) ∧
      Text.trim (Cell.number lowest).shown = (Cell.number lowest).shown ∧
      Text.items (Row.field [.bool true, .number lowest] 1) = ["-inf"] := by
  have hcell : Row.cell [.bool true, .number lowest] 1 = .number lowest := rfl
  have htext : ∀ s, .number lowest ≠ text s := by
    intro s h
    cases h
  have hshown : (Cell.number lowest).shown = "-inf" := by decide
  obtain ⟨htrim, hitems⟩ := blank_agrees.2.2.2 _ _ _ hcell htext
  exact ⟨hcell, htext, htrim, by simpa [hshown] using hitems⟩

end Cell

end Conformance
