import Conformance.Proofs.Catalog.Scan
import Conformance.Proofs.Report

set_option autoImplicit false

/-!
# What a scan reports

A scan reports on each data row of the category sheets in order.  A row without an identifier is
noted if it has content; a row whose identifier was defined before it is warned about, unless
repetitions are rejected, and the warning names the definition that was held until then.  The
report therefore depends on the rows alone, and is stated without following the catalog
(`rowIssues`); `addRows_eq` says that a scan reports just this.
-/

namespace Conformance

theorem filterMap_ofRow? (rows : List SheetRow) :
    rows.filterMap TestStep.ofRow? = (definingRows rows).map SheetRow.step := by
  induction rows with
  | nil => rfl
  | cons row rows ih =>
    rw [List.filterMap_cons, TestStep.ofRow?_eq, ih]
    by_cases hid : row.stepId = "" <;> simp [definingRows, hid]

/-- The steps of an identifier are those of the rows with this identifier. -/
theorem filter_map_step (rows : List SheetRow) (id : String) :
    ((rows.map SheetRow.step).filter fun step => step.id = id) =
      (rows.filter fun row => row.stepId = id).map SheetRow.step := by
  rw [List.filter_map]
  congr 1

theorem definingRows_append (rows more : List SheetRow) :
    definingRows (rows ++ more) = definingRows rows ++ definingRows more := by
  rw [definingRows, List.filter_append, definingRows, definingRows]

theorem definingRows_singleton {row : SheetRow} (h : row.stepId ≠ "") :
    definingRows [row] = [row] := by
  simp [definingRows, h]

theorem definingRows_singleton_eq_nil {row : SheetRow} (h : row.stepId = "") :
    definingRows [row] = [] := by
  simp [definingRows, h]

namespace Catalog

/-! ## The report -/

/-- What is reported when a step is defined again while `held` stands under its identifier. -/
def redefinitionIssues (policy : DuplicatePolicy) (held step : TestStep) : List Issue :=
  match policy with
  | .reject => []
  | .lastWins =>
    [duplicateIssue step
      s!"step '{step.id}' redefined; {step.location.text} replaces {held.location.text}"]
  | .firstWins =>
    [duplicateIssue step
      s!"step '{step.id}' redefined; {step.location.text} ignored in favour of {held.location.text}"]

/-- What is reported on a step, after the steps that were defined before it. -/
def stepIssues (policy : DuplicatePolicy) (earlier : List TestStep) (step : TestStep) :
    List Issue :=
  match policy.keeps (earlier.filter fun other => other.id = step.id) with
  | none => []
  | some held => redefinitionIssues policy held step

/-- What is reported on a row for having no identifier. -/
def blankIssues (row : SheetRow) : List Issue :=
  if row.stepId = "" ∧ row.cells.hasContent then [blankRowIssue row.location] else []

/-- What is reported on a row of a category sheet, after the rows before it. -/
def rowIssues (policy : DuplicatePolicy) (earlier : List SheetRow) (row : SheetRow) :
    List Issue :=
  if row.stepId = "" then blankIssues row
  else stepIssues policy ((definingRows earlier).map SheetRow.step) row.step

/-- A repetition that is not rejected is warned about once. -/
theorem exists_redefinitionIssues_eq {policy : DuplicatePolicy} (h : policy ≠ .reject)
    (held step : TestStep) :
    ∃ message, redefinitionIssues policy held step = [duplicateIssue step message] := by
  cases policy with
  | reject => exact absurd rfl h
  | lastWins => exact ⟨_, by rw [redefinitionIssues]⟩
  | firstWins => exact ⟨_, by rw [redefinitionIssues]⟩

/-- Nothing is reported on an identifier that is seen for the first time. -/
theorem stepIssues_of_notMem {policy : DuplicatePolicy} {earlier : List TestStep}
    {step : TestStep} (h : step.id ∉ earlier.map TestStep.id) :
    stepIssues policy earlier step = [] := by
  have hnone : (earlier.filter fun other => other.id = step.id) = [] := by
    simpa [List.filter_eq_nil_iff] using h
  rw [stepIssues, hnone, DuplicatePolicy.keeps_nil]

theorem rowIssues_of_notMem {policy : DuplicatePolicy} {earlier : List SheetRow} {row : SheetRow}
    (h : row.stepId ∉ (definingRows earlier).map SheetRow.stepId) :
    rowIssues policy earlier row = blankIssues row := by
  rw [rowIssues]
  by_cases hid : row.stepId = ""
  · rw [if_pos hid]
  · rw [if_neg hid, stepIssues_of_notMem (by simpa using h), blankIssues,
      if_neg fun hblank => hid hblank.1]

/-- No identifier occurs in the rows that define nothing. -/
theorem notMem_of_stepId_eq {row : SheetRow} (h : row.stepId = "") (rows : List SheetRow) :
    row.stepId ∉ (definingRows rows).map SheetRow.stepId := by
  simp [definingRows, h]

/-- Where no identifier repeats, no row has one that occurred before. -/
theorem notMem_of_nodup {before after : List SheetRow} {row : SheetRow}
    (h : ((definingRows (before ++ row :: after)).map SheetRow.stepId).Nodup) :
    row.stepId ∉ (definingRows before).map SheetRow.stepId := by
  by_cases hid : row.stepId = ""
  · exact notMem_of_stepId_eq hid before
  · rw [← List.singleton_append, definingRows_append, definingRows_append,
      definingRows_singleton hid, List.map_append, List.map_append, List.nodup_append] at h
    intro hmem
    exact h.2.2 _ hmem _ (by simp) rfl

/-- Where no identifier repeats, a report consists of the notes on blank rows. -/
theorem running_rowIssues_of_nodup {policy : DuplicatePolicy} {rows : List SheetRow}
    (h : ((definingRows rows).map SheetRow.stepId).Nodup) :
    Report.running (rowIssues policy) [] rows = rows.flatMap blankIssues := by
  refine Report.running_eq_flatMap fun before row after hrows => rowIssues_of_notMem ?_
  rw [hrows] at h
  rw [List.nil_append]
  exact notMem_of_nodup h

/-! ## The scan makes it -/

theorem issues_insert (c : Catalog) (step : TestStep) (policy : DuplicatePolicy) :
    (c.insert step policy).issues =
      match c.get? step.id with
      | none => []
      | some held => redefinitionIssues policy held step := by
  cases hheld : c.get? step.id with
  | none => rw [insert_of_get?_eq_none policy hheld]; rfl
  | some held =>
    unfold insert
    split
    · next hnone => rw [hheld] at hnone; cases hnone
    · next other hother =>
      obtain rfl : held = other := by rw [hheld] at hother; exact Option.some.inj hother
      cases policy <;> rfl

variable {policy : DuplicatePolicy} {c : Catalog} {earlier : List SheetRow}

/-- One row: what it is reported with follows from the rows before it. -/
theorem issues_addRow (h : c.Holds policy ((definingRows earlier).map SheetRow.step))
    (row : SheetRow) : (addRow policy c row).issues = rowIssues policy earlier row := by
  by_cases hid : row.stepId = ""
  · rw [addRow, TestStep.ofRow?_eq, if_pos hid, rowIssues, if_pos hid, blankIssues]
    cases row.cells.hasContent <;> simp [hid, Audit.ok]
  · rw [addRow_of_stepId_ne policy c hid, rowIssues, if_neg hid, issues_insert, h.get?,
      SheetRow.id_step, stepIssues, SheetRow.id_step]

/-- One row: the catalog holds one definition more, if the row has an identifier. -/
theorem exists_outcome_addRow (h : c.Holds policy ((definingRows earlier).map SheetRow.step))
    (row : SheetRow)
    (hdistinct : policy = .reject → row.stepId ∉ (definingRows earlier).map SheetRow.stepId) :
    ∃ c', (addRow policy c row).outcome = .ok c' ∧
      c'.Holds policy ((definingRows (earlier ++ [row])).map SheetRow.step) := by
  rw [definingRows_append, List.map_append]
  by_cases hid : row.stepId = ""
  · refine ⟨c, outcome_addRow_of_stepId_eq policy c hid, ?_⟩
    rwa [definingRows_singleton_eq_nil hid, List.map_nil, List.append_nil]
  · rw [addRow_of_stepId_ne policy c hid, definingRows_singleton hid, List.map_singleton]
    exact h.insert row.step (by simpa using hdistinct)

/-- A whole scan that no repetition ends: its report and the catalog it leaves. -/
theorem addRows_eq (h : c.Holds policy ((definingRows earlier).map SheetRow.step))
    (rows : List SheetRow)
    (hdistinct : policy = .reject →
      ((definingRows (earlier ++ rows)).map SheetRow.stepId).Nodup) :
    ∃ c', addRows policy c rows = ⟨Report.running (rowIssues policy) earlier rows, .ok c'⟩ ∧
      c'.Holds policy ((definingRows (earlier ++ rows)).map SheetRow.step) := by
  induction rows generalizing c earlier with
  | nil => exact ⟨c, rfl, by simpa using h⟩
  | cons row rows ih =>
    have hnew : policy = .reject →
        row.stepId ∉ (definingRows earlier).map SheetRow.stepId :=
      fun hpolicy => notMem_of_nodup (hdistinct hpolicy)
    obtain ⟨c', houtcome, hc'⟩ := exists_outcome_addRow h row hnew
    obtain ⟨c'', hrest, hc''⟩ := ih hc' (by simpa using hdistinct)
    refine ⟨c'', ?_, by simpa using hc''⟩
    rw [addRows, Audit.bind, houtcome]
    simp only [hrest, issues_addRow h, Report.running]

/-- Scanning more rows goes on from where the scan was. -/
theorem addRows_append_of_eq_ok {policy : DuplicatePolicy} {c c' : Catalog}
    {rows : List SheetRow} (h : (addRows policy c rows).outcome = .ok c') (more : List SheetRow) :
    addRows policy c (rows ++ more) =
      ⟨(addRows policy c rows).issues ++ (addRows policy c' more).issues,
        (addRows policy c' more).outcome⟩ := by
  induction rows generalizing c with
  | nil =>
    obtain rfl : c = c' := Except.ok.inj h
    rfl
  | cons row rows ih =>
    rw [List.cons_append, addRows, addRows]
    rw [addRows] at h
    cases hrow : (addRow policy c row).outcome with
    | error error =>
      rw [Audit.bind_of_outcome_eq_error hrow] at h
      cases h
    | ok next =>
      rw [Audit.bind_of_outcome_eq_ok hrow] at h ⊢
      rw [Audit.bind_of_outcome_eq_ok hrow, ih h, List.append_assoc]

/-- A scan of rows from the start. -/
theorem exists_addRows_empty_eq (policy : DuplicatePolicy) (rows : List SheetRow)
    (hdistinct : policy = .reject → ((definingRows rows).map SheetRow.stepId).Nodup) :
    ∃ c, addRows policy empty rows = ⟨Report.running (rowIssues policy) [] rows, .ok c⟩ ∧
      c.Holds policy ((definingRows rows).map SheetRow.step) :=
  addRows_eq (holds_empty policy) rows hdistinct

/-- A scan of sheets that no repetition ends. -/
theorem exists_build_eq (policy : DuplicatePolicy) (sheets : List Sheet)
    (hdistinct : policy = .reject →
      ((definingRows (sheets.flatMap Sheet.dataRows)).map SheetRow.stepId).Nodup) :
    ∃ c, build sheets policy =
        ⟨Report.running (rowIssues policy) [] (sheets.flatMap Sheet.dataRows), .ok c⟩ ∧
      c.Holds policy ((definingRows (sheets.flatMap Sheet.dataRows)).map SheetRow.step) :=
  exists_addRows_empty_eq policy _ hdistinct

/-- Where no identifier repeats, the policy does not matter: every definition is held, and only
blank rows are reported. -/
theorem exists_build_eq_of_nodup {sheets : List Sheet}
    (h : ((definingRows (sheets.flatMap Sheet.dataRows)).map SheetRow.stepId).Nodup) :
    ∃ c : Catalog, c.steps = (definingRows (sheets.flatMap Sheet.dataRows)).map SheetRow.step ∧
      ∀ policy, build sheets policy =
        ⟨(sheets.flatMap Sheet.dataRows).flatMap blankIssues, .ok c⟩ := by
  have hnodup : (((definingRows (sheets.flatMap Sheet.dataRows)).map SheetRow.step).map
      TestStep.id).Nodup := by simpa using h
  refine ⟨⟨_, hnodup⟩, rfl, fun policy => ?_⟩
  obtain ⟨c, hbuild, hholds⟩ := exists_build_eq policy sheets fun _ => h
  have hsteps := hholds.steps_eq_of_nodup hnodup
  have hc : c = ⟨_, hnodup⟩ := by
    cases c
    subst hsteps
    rfl
  rw [hbuild, running_rowIssues_of_nodup h, hc]

end Catalog

end Conformance
