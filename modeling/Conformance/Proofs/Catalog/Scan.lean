import Conformance.Proofs.Catalog.Contents
import Conformance.Step.Reading

set_option autoImplicit false

/-!
# Scanning category sheets

Of the data rows of the category sheets, only those with an identifier define a step; the others
leave the catalog as it is.  So a scan comes to inserting the steps of the defining rows, and the
catalog it leaves holds, under each identifier, the step of the row that the policy keeps.
-/

namespace Conformance

namespace SheetRow

/-- The step identifier in a row of a category sheet; empty if the row defines nothing. -/
def stepId (row : SheetRow) : String := row.cells.field TestStep.idColumn

/-- The parameters listed in a row of a category sheet. -/
def parameters (row : SheetRow) : List String :=
  Text.items (row.cells.field TestStep.parametersColumn)

/-- The step that a row with an identifier defines. -/
def step (row : SheetRow) : TestStep where
  id := row.stepId
  className := row.cells.field TestStep.classColumn
  method := row.cells.field TestStep.methodColumn
  description := row.cells.field TestStep.descriptionColumn
  parameters := row.parameters
  location := row.location

@[simp] theorem id_step (row : SheetRow) : row.step.id = row.stepId := rfl

@[simp] theorem id_comp_step : TestStep.id ∘ SheetRow.step = SheetRow.stepId := rfl

end SheetRow

/-- The rows that define a step. -/
def definingRows (rows : List SheetRow) : List SheetRow := rows.filter fun row => row.stepId ≠ ""

theorem TestStep.ofRow?_eq (row : SheetRow) :
    TestStep.ofRow? row = if row.stepId = "" then none else some row.step := rfl

namespace Catalog

/-- A row without an identifier leaves the catalog as it is. -/
theorem outcome_addRow_of_stepId_eq {row : SheetRow} (policy : DuplicatePolicy) (c : Catalog)
    (h : row.stepId = "") : (addRow policy c row).outcome = .ok c := by
  rw [addRow, TestStep.ofRow?_eq, if_pos h]
  cases row.cells.hasContent <;> rfl

/-- A row with an identifier inserts its step. -/
theorem addRow_of_stepId_ne {row : SheetRow} (policy : DuplicatePolicy) (c : Catalog)
    (h : row.stepId ≠ "") : addRow policy c row = c.insert row.step policy := by
  rw [addRow, TestStep.ofRow?_eq, if_neg h]

/-- The outcome of a scan depends on the defining rows alone. -/
theorem outcome_addRows (policy : DuplicatePolicy) (c : Catalog) (rows : List SheetRow) :
    (addRows policy c rows).outcome =
      insertAll policy c ((definingRows rows).map SheetRow.step) := by
  induction rows generalizing c with
  | nil => rfl
  | cons row rows ih =>
    rw [addRows, Audit.outcome_bind]
    by_cases hrow : row.stepId = ""
    · have hrows : definingRows (row :: rows) = definingRows rows := by
        simp [definingRows, hrow]
      rw [outcome_addRow_of_stepId_eq policy c hrow, hrows]
      exact ih c
    · have hrows : definingRows (row :: rows) = row :: definingRows rows := by
        simp [definingRows, hrow]
      rw [addRow_of_stepId_ne policy c hrow, hrows, List.map_cons, insertAll_cons]
      simp only [ih]

/-- A scan succeeds unless a repeated identifier is rejected. -/
theorem outcome_build_eq_ok {policy : DuplicatePolicy} {sheets : List Sheet}
    (hdistinct : policy = .reject →
      ((definingRows (sheets.flatMap Sheet.dataRows)).map SheetRow.stepId).Nodup) :
    ∃ c, (build sheets policy).outcome = .ok c ∧
      Holds policy ((definingRows (sheets.flatMap Sheet.dataRows)).map SheetRow.step) c := by
  rw [build, outcome_addRows]
  exact (holds_empty policy).insertAll _ (by simpa using hdistinct)

/-- When repeated identifiers are rejected, a scan ends at the first repetition. -/
theorem outcome_build_eq_error {sheets : List Sheet} {first second : SheetRow}
    (hrepeat : FirstSeen.FirstRepeat SheetRow.stepId
      (definingRows (sheets.flatMap Sheet.dataRows)) first second) :
    (build sheets .reject).outcome =
      .error (.duplicateStep second.stepId first.location second.location) := by
  have hsteps : FirstSeen.FirstRepeat TestStep.id
      ((definingRows (sheets.flatMap Sheet.dataRows)).map SheetRow.step) first.step second.step :=
    FirstSeen.FirstRepeat.map hrepeat
  rw [build, outcome_addRows]
  exact Holds.insertAll_of_firstRepeat hsteps

/-- A catalog that a scan leaves holds what the rows define. -/
theorem holds_of_outcome_build {policy : DuplicatePolicy} {sheets : List Sheet} {c : Catalog}
    (h : (build sheets policy).outcome = .ok c) :
    Holds policy ((definingRows (sheets.flatMap Sheet.dataRows)).map SheetRow.step) c := by
  by_cases hdistinct : policy = .reject →
      ((definingRows (sheets.flatMap Sheet.dataRows)).map SheetRow.stepId).Nodup
  · obtain ⟨held, hheld, hholds⟩ := outcome_build_eq_ok hdistinct
    rw [h] at hheld
    cases hheld
    exact hholds
  · obtain ⟨rfl, hnot⟩ := Classical.not_imp.mp hdistinct
    obtain ⟨first, second, hrepeat⟩ := FirstSeen.exists_firstRepeat hnot
    rw [outcome_build_eq_error hrepeat] at h
    cases h

end Catalog

end Conformance
