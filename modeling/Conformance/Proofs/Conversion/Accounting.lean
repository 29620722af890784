import Conformance.Proofs.Catalog.Remark
import Conformance.Proofs.Conversion.Report
import Conformance.Proofs.TestCase.Remark

set_option autoImplicit false

/-!
# Every row is accounted for

A row that was read is either found again in the tables or mentioned in the issues, and nothing is
mentioned that was not read.  The issues go through the rows of the category sheets and then through
those of the overview, making on each row the remark that the rows before it call for.  So the rows
that define steps are as many as the steps in the tables and the warnings of steps defined again,
while test cases are all kept (`convert_accounts`).
-/

namespace Conformance.Conversion

/-- The issues and counts of a conversion account for the rows it was made from. -/
structure Accounts (conversion : Conversion) (selection : Selection) (policy : DuplicatePolicy) :
    Prop where
  /-- The issues are the remarks on the category sheets, row by row, and then those on the overview;
  no other list is. -/
  issues : ∀ issues, issues = conversion.issues ↔ ∃ onSteps onCases, issues = onSteps ++ onCases ∧
    Report.Covers (Catalog.Remark policy) [] selection.categoryRows onSteps ∧
    Report.Covers TestCase.Remark [] selection.overviewRows onCases
  /-- A row that defines a step is counted as a step or warned about. -/
  definitions : selection.definitions.length =
    conversion.summary.stepCount + conversion.issues.countP fun issue => issue.IsRedefinition
  /-- A row that describes a test case is counted as one. -/
  cases : (describingRows selection.overviewRows).length = conversion.summary.caseCount
  /-- Every issue is counted as a warning or as a note. -/
  tally : conversion.summary.issueCount.warnings + conversion.summary.issueCount.infos =
    conversion.issues.length

namespace MadeFrom

variable {conversion : Conversion} {selection : Selection} {policy : DuplicatePolicy}
  {catalog : Catalog}

theorem stepCount_eq (h : conversion.MadeFrom selection policy catalog) :
    conversion.summary.stepCount = Catalog.identifierCount selection.categoryRows := by
  have hids : catalog.ids = selection.stepIds.eraseDups := by
    rw [h.holds.ids, List.map_map, SheetRow.id_comp_step, Selection.stepIds]
  rw [h.summary, Catalog.identifierCount]
  change (Dataset.stepRows catalog).length = selection.stepIds.eraseDups.length
  rw [Dataset.length_stepRows, Catalog.size, ← hids, Catalog.ids, List.length_map]

theorem caseCount_eq (h : conversion.MadeFrom selection policy catalog) :
    conversion.summary.caseCount = (describingRows selection.overviewRows).length := by
  rw [h.summary]
  change (Dataset.caseRows selection.testCases).length = _
  rw [Dataset.length_caseRows, Selection.testCases, List.length_map]

theorem issueCount_eq (h : conversion.MadeFrom selection policy catalog) :
    conversion.summary.issueCount = IssueCount.ofIssues conversion.issues := by
  rw [h.summary, h.issues, summarize]

theorem accounts (h : conversion.MadeFrom selection policy catalog) :
    conversion.Accounts selection policy := by
  have honSteps := (Catalog.covers_remark_iff h.accepts.distinct).mpr rfl
  have honCases := (TestCase.covers_remark_iff h.accepts.fits).mpr rfl
  constructor
  case issues =>
    intro issues
    rw [h.issues]
    constructor
    · rintro rfl
      exact ⟨_, _, rfl, honSteps, honCases⟩
    · rintro ⟨onSteps, onCases, rfl, hsteps, hcases⟩
      rw [(Catalog.covers_remark_iff h.accepts.distinct).mp hsteps,
        (TestCase.covers_remark_iff h.accepts.fits).mp hcases, Selection.report]
  case definitions =>
    have hcount := Catalog.count_of_covers honSteps
    have hnone : Catalog.identifierCount [] = 0 := rfl
    rw [List.nil_append, hnone] at hcount
    rw [h.issues, Selection.report, List.countP_append, TestCase.countP_of_covers honCases,
      h.stepCount_eq, Selection.definitions]
    omega
  case cases => exact h.caseCount_eq.symm
  case tally => rw [h.issueCount_eq, IssueCount.warnings_add_infos]

end MadeFrom

/-- The issues of a conversion are the remarks on the rows of the category sheets and then on those
of the overview, and its counts are those of the rows. -/
theorem convert_accounts {wb : Workbook} {options : Options} {conversion : Conversion}
    (h : convert wb options = .ok conversion) :
    ∃ selection, options.layout.resolve wb = .ok selection ∧
      conversion.Accounts selection options.onDuplicate := by
  obtain ⟨selection, catalog, hlayout, hmade⟩ := exists_madeFrom_of_convert h
  exact ⟨selection, hlayout, hmade.accounts⟩

/-- A workbook with something to say about the second and the third row of each sheet. -/
def untidy : Workbook where
  sheets := [
    { name := "Notes" },
    { name := "Cases", rows := [[],
      [.empty, .text "C", .empty, .text "S"],
      [.empty, .empty, .text "later"],
      [.empty, .text "C"]] },
    { name := "Steps", rows := [[],
      [.text "S", .text "Door", .text "open"],
      [.empty, .text "Door"],
      [.text "S", .text "Door", .text "shut"]] }]

theorem untidy_accounts :
    ∃ conversion selection, convert untidy { onDuplicate := .lastWins } = .ok conversion ∧
      Layout.resolve { } untidy = .ok selection ∧ conversion.Accounts selection .lastWins ∧
      conversion.issues.map Issue.code = [Issue.blankStepRowCode, Issue.duplicateStepCode,
        Issue.blankCaseRowCode, Issue.duplicateCaseCode] := by
  have hcodes : ((convert untidy { onDuplicate := .lastWins }).toOption.map
      fun conversion => conversion.issues.map Issue.code) =
        some [Issue.blankStepRowCode, Issue.duplicateStepCode, Issue.blankCaseRowCode,
          Issue.duplicateCaseCode] := by decide +kernel
  cases hconvert : convert untidy { onDuplicate := .lastWins } with
  | error error =>
    rw [hconvert] at hcodes
    cases hcodes
  | ok conversion =>
    rw [hconvert] at hcodes
    obtain ⟨selection, hlayout, haccounts⟩ := convert_accounts hconvert
    exact ⟨conversion, selection, rfl, hlayout, haccounts, Option.some.inj hcodes⟩

end Conformance.Conversion
