import Conformance.Proofs.Catalog.Scan
import Conformance.Proofs.TestCase.Assembly
import Conformance.Proofs.Text.Items

set_option autoImplicit false

/-!
# Referring to a step

An identifier is read from a cell of its own on a category sheet, and from a list on the overview.
The two readings agree on every identifier without a comma: a row that lists nothing but such an
identifier runs just the step it names, whatever stands in the other rows (`Catalog.Referable`).  An
identifier with a comma can be defined too, but no list can name it, since the comma divides it.
-/

namespace Conformance

namespace Catalog

/-- A row of the overview whose reference cell shows the identifier runs just that step, and does
not stand in the way of any other row. -/
def Referable (catalog : Catalog) (id : String) : Prop :=
  ∀ (overview : Sheet) (before : List SheetRow) (row : SheetRow) (after : List SheetRow),
    overview.dataRows = before ++ row :: after → row.caseId ≠ "" →
    (row.cells.cell TestCase.stepsColumn).shown = id →
      row.testCase.steps = [id] ∧
      (TestCase.assemble overview catalog).outcome = do
        let front ← (TestCase.addRows catalog [] before).outcome
        (TestCase.addRows catalog (front ++ [row.testCase]) after).outcome

/-- An identifier that a scan finds is not empty, and has no white space around it. -/
theorem trimmed_of_mem_ids {policy : DuplicatePolicy} {sheets : List Sheet} {catalog : Catalog}
    (h : (build sheets policy).outcome = .ok catalog) {id : String} (hid : id ∈ catalog.ids) :
    id ≠ "" ∧ Text.trim id = id := by
  rw [(holds_of_outcome_build h).mem_ids_iff, List.map_map, SheetRow.id_comp_step] at hid
  obtain ⟨row, hrow, rfl⟩ := List.mem_map.mp hid
  exact ⟨by simpa using (List.mem_filter.mp hrow).2, Text.trim_trim _⟩

end Catalog

namespace TestCase

variable {catalog : Catalog}

/-! ## Reading on behind a row -/

theorem outcome_addRows_append (catalog : Catalog) (earlier : List TestCase)
    (before after : List SheetRow) :
    (addRows catalog earlier (before ++ after)).outcome = (do
      let front ← (addRows catalog earlier before).outcome
      (addRows catalog front after).outcome) := by
  induction before generalizing earlier with
  | nil => rfl
  | cons row before ih =>
    rw [List.cons_append, addRows, addRows]
    cases ofRow? catalog row with
    | error error => rfl
    | ok testCase? =>
      simp only [Audit.outcome_bind, ih]
      rfl

theorem outcome_addRows_cons_of_ok {row : SheetRow} {testCase : TestCase}
    (h : ofRow? catalog row = .ok (some testCase)) (earlier : List TestCase)
    (after : List SheetRow) :
    (addRows catalog earlier (row :: after)).outcome =
      (addRows catalog (earlier ++ [testCase]) after).outcome := by
  rw [addRows, h, Audit.outcome_bind]
  rfl

/-! ## Lists of one item -/

/-- The references of a row whose cell shows a trimmed text without a comma. -/
theorem references_eq_singleton {row : SheetRow} {id : String} (hne : id ≠ "")
    (htrim : Text.trim id = id) (hcomma : ',' ∉ id.toList)
    (hcell : (row.cells.cell stepsColumn).shown = id) : row.references = [id] := by
  have htext : row.referenceText = id := by
    rw [SheetRow.referenceText, Row.field, hcell, htrim]
  rw [SheetRow.references, htext, Text.items_of_notMem hcomma (by rwa [htrim]), htrim]

theorem referable_of_notMem {id : String} (hid : id ∈ catalog.ids) (hne : id ≠ "")
    (htrim : Text.trim id = id) (hcomma : ',' ∉ id.toList) : catalog.Referable id := by
  intro overview before row after hrows hcase hcell
  have hreferences := references_eq_singleton hne htrim hcomma hcell
  have hfits : row.Fits catalog.ids := by
    rw [SheetRow.Fits, if_neg hcase, hreferences]
    simp [hne, hid]
  have hread : ofRow? catalog row = .ok (some row.testCase) := by
    rw [ofRow?_eq_ok hfits, if_neg hcase]
  refine ⟨by rw [SheetRow.steps_testCase, hreferences], ?_⟩
  rw [assemble, hrows, outcome_addRows_append]
  simp only [outcome_addRows_cons_of_ok hread]

/-- No test case that was read lists an identifier with a comma. -/
theorem notMem_steps_of_mem {id : String} (hcomma : ',' ∈ id.toList) {overview : Sheet}
    {testCases : List TestCase} (h : (assemble overview catalog).outcome = .ok testCases) :
    ∀ testCase ∈ testCases, id ∉ testCase.steps := by
  rw [outcome_assemble_eq_ok (fits_of_outcome_assemble h)] at h
  cases h
  intro testCase hmem hstep
  obtain ⟨row, -, rfl⟩ := List.mem_map.mp hmem
  rw [SheetRow.steps_testCase, SheetRow.references] at hstep
  exact Text.notMem_of_mem_items hstep hcomma

/-- Every step that a scan leaves can be referred to by its identifier, unless a comma divides the
identifier; then no test case that is read lists it. -/
theorem assemble_refers {sheets : List Sheet} {policy : DuplicatePolicy} {step : TestStep}
    (hbuild : (Catalog.build sheets policy).outcome = .ok catalog) (hstep : step ∈ catalog.steps) :
    (',' ∉ step.id.toList → catalog.Referable step.id) ∧
      (',' ∈ step.id.toList → ∀ overview testCases,
        (assemble overview catalog).outcome = .ok testCases →
          ∀ testCase ∈ testCases, step.id ∉ testCase.steps) := by
  have hid : step.id ∈ catalog.ids := List.mem_map_of_mem hstep
  obtain ⟨hne, htrim⟩ := Catalog.trimmed_of_mem_ids hbuild hid
  constructor
  · intro hcomma
    exact referable_of_notMem hid hne htrim hcomma
  · intro hcomma overview testCases hassemble
    exact notMem_steps_of_mem hcomma hassemble

/-- A category sheet that defines two steps, one of them with a comma in its identifier. -/
def spelled : Sheet where
  name := "Steps"
  rows := [[], [.text " S 1 "], [.text "a,b"]]

theorem exists_build_spelled :
    ∃ catalog, (Catalog.build [spelled] .reject).outcome = .ok catalog ∧
      catalog.ids = ["S 1", "a,b"] := by
  have hids : ((Catalog.build [spelled] .reject).outcome.toOption.map Catalog.ids) =
      some ["S 1", "a,b"] := by decide +kernel
  cases hbuild : (Catalog.build [spelled] .reject).outcome with
  | error error =>
    rw [hbuild] at hids
    cases hids
  | ok catalog =>
    rw [hbuild] at hids
    exact ⟨catalog, rfl, Option.some.inj hids⟩

theorem spelled_refers :
    ∃ catalog step, (Catalog.build [spelled] .reject).outcome = .ok catalog ∧
      step ∈ catalog.steps ∧ step.id = "S 1" ∧ catalog.Referable "S 1" := by
  obtain ⟨catalog, hbuild, hids⟩ := exists_build_spelled
  have hmem : "S 1" ∈ catalog.ids := by rw [hids]; decide
  obtain ⟨step, hstep, hid⟩ := List.mem_map.mp hmem
  refine ⟨catalog, step, hbuild, hstep, hid, ?_⟩
  rw [← hid]
  exact (assemble_refers hbuild hstep).1 (by rw [hid]; decide)

/-- An overview that refers to the other one. -/
def referring : Sheet where
  name := "Cases"
  rows := [[], [.empty, .text "C", .empty, .text "a,b"]]

/-- The step with the comma is in the catalog, and the row shows its identifier, but the row is
refused. -/
theorem spelled_refused :
    ∃ catalog step row, (Catalog.build [spelled] .reject).outcome = .ok catalog ∧
      step ∈ catalog.steps ∧ referring.dataRows = [row] ∧ row.caseId ≠ "" ∧
      (row.cells.cell stepsColumn).shown = step.id ∧
      (assemble referring catalog).outcome =
        .error (.unknownStepReference "C" "a" ⟨"Cases", 2⟩) := by
  obtain ⟨catalog, hbuild, hids⟩ := exists_build_spelled
  have hmem : "a,b" ∈ catalog.ids := by rw [hids]; decide
  obtain ⟨step, hstep, hid⟩ := List.mem_map.mp hmem
  have hrefused : ((Catalog.build [spelled] .reject).outcome.bind fun catalog =>
      (assemble referring catalog).outcome) =
        .error (.unknownStepReference "C" "a" ⟨"Cases", 2⟩) := by decide +kernel
  rw [hbuild] at hrefused
  exact ⟨catalog, step, _, hbuild, hstep, rfl, by decide, hid.symm, hrefused⟩

end TestCase

end Conformance
