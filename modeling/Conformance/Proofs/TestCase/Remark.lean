import Conformance.Proofs.Catalog.Remark
import Conformance.Proofs.TestCase.Report

set_option autoImplicit false

/-!
# What is said about a row of the overview

`TestCase.Remark` says, in terms of the rows before it, what is reported on a row of the overview:
content without an identifier is noted, and a row whose identifier occurred before is warned about.
Unlike a step, a test case is never replaced, so it is always the first row with the identifier that
is named, however many came between.  Reading rows that fit reports just this on every row
(`covers_remark_iff`), and nothing that could be taken for a step defined again
(`countP_of_covers`).
-/

namespace Conformance.TestCase

/-- What is said about a row of the overview, after the rows before it. -/
inductive Remark (earlier : List SheetRow) (row : SheetRow) : List Issue → Prop where
  /-- Content without identifier and references is noted. -/
  | content (hid : row.caseId = "") (hrefs : row.referenceText = "")
      (hcontent : row.cells.hasContent = true) :
      Remark earlier row
        [{ severity := .info
           code := Issue.blankCaseRowCode
           message := "row has content but no test case identifier; skipped"
           location := some row.location }]
  /-- A row without any content is passed over. -/
  | nothing (hid : row.caseId = "") (hrefs : row.referenceText = "")
      (hcontent : row.cells.hasContent = false) : Remark earlier row []
  /-- Nothing is said about the first test case of an identifier. -/
  | new (hid : row.caseId ≠ "") (hnew : ∀ other ∈ earlier, other.caseId ≠ row.caseId) :
      Remark earlier row []
  /-- Later ones are kept, and the first one is named. -/
  | again {before after : List SheetRow} {first : SheetRow} (hid : row.caseId ≠ "")
      (hearlier : earlier = before ++ first :: after)
      (hbefore : ∀ other ∈ before, other.caseId ≠ row.caseId)
      (hfirst : first.caseId = row.caseId) :
      Remark earlier row
        [{ severity := .warning
           code := Issue.duplicateCaseCode
           message := s!"test case '{row.caseId}' also defined at {first.location.text}"
           location := some row.location }]

variable {earlier rows : List SheetRow} {row : SheetRow}

/-! ## The report makes these remarks -/

/-- Rows that all have other identifiers describe no test case with this one. -/
theorem find?_testCase?_eq_none {id : String} (h : ∀ other ∈ rows, other.caseId ≠ id) :
    (rows.filterMap SheetRow.testCase?).find? (fun other => other.id == id) = none := by
  rw [filterMap_testCase?, List.find?_map, Option.map_eq_none_iff, List.find?_eq_none]
  intro other hother
  simpa [SheetRow.testCase] using h other (mem_describingRows.mp hother).1

/-- The test case named is that of the first row with the identifier. -/
theorem find?_testCase?_eq_some {before : List SheetRow} {first : SheetRow} {id : String}
    (hid : id ≠ "") (hbefore : ∀ other ∈ before, other.caseId ≠ id) (hfirst : first.caseId = id)
    (after : List SheetRow) :
    ((before ++ first :: after).filterMap SheetRow.testCase?).find? (fun other => other.id == id) =
      some first.testCase := by
  have hdescribes : first.testCase? = some first.testCase := by
    rw [SheetRow.testCase?, if_neg (by rwa [hfirst])]
  rw [List.filterMap_append, List.filterMap_cons_some hdescribes, List.find?_append,
    find?_testCase?_eq_none hbefore, Option.none_or, List.find?_cons_of_pos]
  simpa [SheetRow.testCase] using hfirst

/-- Something can be said about a row that fits. -/
theorem exists_remark {ids : List String} (h : row.Fits ids) : ∃ said, Remark earlier row said := by
  unfold SheetRow.Fits at h
  by_cases hid : row.caseId = ""
  · rw [if_pos hid] at h
    cases hcontent : row.cells.hasContent with
    | true => exact ⟨_, .content hid h hcontent⟩
    | false => exact ⟨_, .nothing hid h hcontent⟩
  · by_cases hnew : ∀ other ∈ earlier, other.caseId ≠ row.caseId
    · exact ⟨_, .new hid hnew⟩
    · obtain ⟨before, first, after, hearlier, hbefore, hfirst⟩ := FirstSeen.exists_first_not hnew
      exact ⟨_, .again hid hearlier hbefore (not_not.mp hfirst)⟩

/-- What can be said about a row is what is reported on it. -/
theorem Remark.eq_overviewIssues {said : List Issue} (h : Remark earlier row said) :
    said = overviewIssues earlier row := by
  have hnone : row.caseId = "" → row.testCase? = none := fun hid => by
    rw [SheetRow.testCase?, if_pos hid]
  have hsome : row.caseId ≠ "" → row.testCase? = some row.testCase := fun hid => by
    rw [SheetRow.testCase?, if_neg hid]
  cases h with
  | content hid _ hcontent =>
    rw [overviewIssues_of_none (hnone hid), if_pos hcontent]
    rfl
  | nothing hid _ hcontent => rw [overviewIssues_of_none (hnone hid), if_neg (by simp [hcontent])]
  | new hid hnew =>
    rw [overviewIssues_of_some (hsome hid), caseIssues, SheetRow.id_testCase,
      find?_testCase?_eq_none hnew]
  | @again before after first hid hearlier hbefore hfirst =>
    rw [overviewIssues_of_some (hsome hid), caseIssues, SheetRow.id_testCase, hearlier,
      find?_testCase?_eq_some hid hbefore hfirst]
    rfl

/-- Rows that all fit make these remarks and no others. -/
theorem covers_remark_iff {ids : List String} (h : ∀ row ∈ rows, row.Fits ids)
    {report : List Issue} :
    Report.Covers Remark [] rows report ↔ report = Report.running overviewIssues [] rows := by
  refine Report.covers_iff fun before row after hrows said => ⟨Remark.eq_overviewIssues, ?_⟩
  rintro rfl
  obtain ⟨said, hremark⟩ : ∃ said, Remark ([] ++ before) row said :=
    exists_remark (h row (by simp [hrows]))
  rwa [← hremark.eq_overviewIssues]

/-! ## No remark of the other kind -/

theorem Remark.not_isRedefinition {issues : List Issue} (h : Remark earlier row issues)
    {issue : Issue} (hissue : issue ∈ issues) : ¬ issue.IsRedefinition := by
  rintro ⟨-, hcode⟩
  cases h with
  | content =>
    obtain rfl := List.mem_singleton.mp hissue
    exact absurd hcode (show Issue.blankCaseRowCode ≠ Issue.duplicateStepCode by decide)
  | nothing | new => cases hissue
  | again =>
    obtain rfl := List.mem_singleton.mp hissue
    exact absurd hcode (show Issue.duplicateCaseCode ≠ Issue.duplicateStepCode by decide)

theorem countP_of_covers {report : List Issue} (h : Report.Covers Remark earlier rows report) :
    report.countP (fun issue => issue.IsRedefinition) = 0 := by
  rw [List.countP_eq_zero]
  intro issue hissue
  obtain ⟨before, row, -, issues, -, hremark, hmem⟩ := h.exists_of_mem hissue
  simpa using hremark.not_isRedefinition hmem

end Conformance.TestCase
