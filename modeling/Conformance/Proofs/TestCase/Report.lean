import Conformance.Proofs.Report
import Conformance.Proofs.TestCase.Assembly

set_option autoImplicit false

/-!
# What the overview is read as, and what is reported on it

A row of the overview is read before any catalog is asked: it lists steps without an identifier,
or it describes a test case, or it says nothing (`SheetRow.reading?`).  The catalog only decides
whether the references of a test case are known, so the outcome of the assembly depends on the
readings (`outcome_assemble_eq_mapM`).  The report on the rows depends on the test cases described
before each, and on no catalog at all (`issues_assemble`).
-/

namespace Conformance

namespace SheetRow

/-- The test case that a row describes, wherever its references lead. -/
def testCase? (row : SheetRow) : Option TestCase :=
  if row.caseId = "" then none else some row.testCase

/-- What a row says without regard to a catalog: an error if it lists steps without an identifier,
a test case if it has one. -/
def reading? (row : SheetRow) : Option (Except ConvertError TestCase) :=
  if row.caseId = "" then
    if row.referenceText = "" then none
    else some (.error (.caseWithoutIdentifier row.referenceText row.location))
  else some (.ok row.testCase)

theorem testCase?_eq_bind (row : SheetRow) : row.testCase? = row.reading?.bind Except.toOption := by
  unfold testCase? reading?
  by_cases hid : row.caseId = ""
  · rw [if_pos hid, if_pos hid]
    by_cases hrefs : row.referenceText = ""
    · rw [if_pos hrefs, Option.bind_none]
    · rw [if_neg hrefs, Option.bind_some]
      rfl
  · rw [if_neg hid, if_neg hid, Option.bind_some]
    rfl

end SheetRow

theorem filterMap_testCase? (rows : List SheetRow) :
    rows.filterMap SheetRow.testCase? = (describingRows rows).map SheetRow.testCase := by
  induction rows with
  | nil => rfl
  | cons row rows ih =>
    rw [List.filterMap_cons, SheetRow.testCase?, ih]
    by_cases hid : row.caseId = "" <;> simp [describingRows, hid]

namespace TestCase

variable {catalog : Catalog}

/-! ## Readings -/

/-- The test case of a reading, if the catalog knows its references. -/
def confirm (catalog : Catalog) (reading : Except ConvertError TestCase) :
    Except ConvertError TestCase :=
  reading.bind fun testCase =>
    match badReference? catalog testCase.id testCase.location testCase.steps with
    | some error => .error error
    | none => .ok testCase

theorem ofRow?_eq_confirm (catalog : Catalog) (row : SheetRow) :
    ofRow? catalog row = match row.reading? with
      | none => .ok none
      | some reading => (confirm catalog reading).map some := by
  unfold SheetRow.reading?
  by_cases hid : row.caseId = ""
  · rw [ofRow?_of_caseId_eq hid, if_pos hid]
    by_cases hrefs : row.referenceText = ""
    · rw [if_pos hrefs, if_pos hrefs]
    · rw [if_neg hrefs, if_neg hrefs]
      rfl
  · rw [if_neg hid]
    cases hbad : badReference? catalog row.caseId row.location row.references with
    | none =>
      have hnone : badReference? catalog row.testCase.id row.testCase.location
          row.testCase.steps = none := by simpa only [SheetRow.testCase] using hbad
      rw [ofRow?_of_badReference?_eq_none hid hbad]
      simp only [confirm, Except.bind, hnone, Except.map]
    | some error =>
      have hsome : badReference? catalog row.testCase.id row.testCase.location
          row.testCase.steps = some error := by simpa only [SheetRow.testCase] using hbad
      rw [ofRow?_of_badReference?_eq_some hid hbad]
      simp only [confirm, Except.bind, hsome, Except.map]

/-- Rows that say nothing may be left out of a traversal. -/
theorem mapM_ofRow?_eq (catalog : Catalog) (rows : List SheetRow) :
    (rows.mapM (ofRow? catalog)).map (fun found => found.flatMap Option.toList) =
      (rows.filterMap SheetRow.reading?).mapM (confirm catalog) := by
  induction rows with
  | nil => rfl
  | cons row rows ih =>
    rw [List.mapM_cons, ofRow?_eq_confirm, List.filterMap_cons]
    cases row.reading? with
    | none =>
      rw [← ih]
      cases rows.mapM (ofRow? catalog) <;> rfl
    | some reading =>
      simp only [List.mapM_cons, ← ih]
      cases confirm catalog reading with
      | error error => rfl
      | ok testCase => cases rows.mapM (ofRow? catalog) <;> rfl

/-- The outcome of an assembly depends on what the rows say. -/
theorem outcome_assemble_eq_mapM (overview : Sheet) (catalog : Catalog) :
    (assemble overview catalog).outcome =
      (overview.dataRows.filterMap SheetRow.reading?).mapM (confirm catalog) := by
  rw [assemble, outcome_addRows, ← mapM_ofRow?_eq]
  rfl

/-! ## The report -/

/-- What is reported on a test case, after the test cases described before it. -/
def caseIssues (earlier : List TestCase) (testCase : TestCase) : List Issue :=
  match earlier.find? fun other => other.id == testCase.id with
  | some first => [duplicateIssue testCase first.location]
  | none => []

/-- What is reported on a row of the overview, after the rows before it. -/
def overviewIssues (earlier : List SheetRow) (row : SheetRow) : List Issue :=
  rowIssues (earlier.filterMap SheetRow.testCase?) row row.testCase?

theorem overviewIssues_of_none {row : SheetRow} (h : row.testCase? = none)
    (earlier : List SheetRow) :
    overviewIssues earlier row =
      if row.cells.hasContent then [blankRowIssue row.location] else [] := by
  rw [overviewIssues, h, rowIssues]

theorem overviewIssues_of_some {row : SheetRow} {testCase : TestCase}
    (h : row.testCase? = some testCase) (earlier : List SheetRow) :
    overviewIssues earlier row = caseIssues (earlier.filterMap SheetRow.testCase?) testCase := by
  rw [overviewIssues, h]
  rfl

/-- Reading rows that fit reports on each of them. -/
theorem issues_addRows {rows : List SheetRow} (earlier : List SheetRow)
    (h : ∀ row ∈ rows, row.Fits catalog.ids) :
    (addRows catalog (earlier.filterMap SheetRow.testCase?) rows).issues =
      Report.running overviewIssues earlier rows := by
  induction rows generalizing earlier with
  | nil => rfl
  | cons row rows ih =>
    have hrow : ofRow? catalog row = .ok row.testCase? := ofRow?_eq_ok (h row (by simp))
    have hearlier : earlier.filterMap SheetRow.testCase? ++ row.testCase?.toList =
        (earlier ++ [row]).filterMap SheetRow.testCase? := by
      rw [List.filterMap_append, List.filterMap_cons]
      cases row.testCase? <;> rfl
    have hrest := ih (earlier ++ [row]) fun other hother => h other (List.mem_cons_of_mem _ hother)
    rw [addRows, hrow, Report.running, ← hrest, ← hearlier]
    rfl

theorem issues_assemble {overview : Sheet} (h : ∀ row ∈ overview.dataRows, row.Fits catalog.ids) :
    (assemble overview catalog).issues = Report.running overviewIssues [] overview.dataRows :=
  issues_addRows [] h

end TestCase

end Conformance
