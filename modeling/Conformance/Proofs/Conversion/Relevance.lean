import Conformance.Proofs.Conversion.Report
import Conformance.Proofs.Layout.Resolution
import Conformance.Proofs.Workbook.Cells

set_option autoImplicit false

/-!
# Which cells matter

A conversion looks at few cells: the trimmed texts of five columns of the category sheets and of
four columns of the overview, below the header.  Two workbooks that show the same there are
converted alike (`convert_congr`): the errors, the tables and the warnings are the same.  Only the
notes on skipped rows may differ, since a row is noted for having content in any column.

The proof separates what is read of a row (`TestStep.ofRow?`, `SheetRow.reading?`) from what is
noted about it.  Outcome and warnings are functions of the readings, and the readings are functions
of the cells looked at.
-/

namespace Conformance

/-- The columns of a category sheet that are read. -/
def TestStep.columns : List Nat :=
  [idColumn, classColumn, methodColumn, descriptionColumn, parametersColumn]

/-- The columns of the overview that are read. -/
def TestCase.columns : List Nat := [idColumn, descriptionColumn, stepsColumn, containerColumn]

/-- The warnings among issues. -/
def Issue.warnings (issues : List Issue) : List Issue :=
  issues.filter fun issue => issue.severity = .warning

/-- Two workbooks with sheets of the same names show the same where a layout has them read: the
overviews agree in the columns read of an overview, the category sheets one by one in those read of
a category sheet. -/
structure Workbook.ShowsSame (wb other : Workbook) (layout : Layout) : Prop where
  names : wb.sheetNames = other.sheetNames
  overview : ∀ s t, layout.resolve wb = .ok s → layout.resolve other = .ok t →
    s.overview.sheet.AgreesOn TestCase.columns t.overview.sheet
  categories : ∀ s t, layout.resolve wb = .ok s → layout.resolve other = .ok t →
    ∀ pair ∈ s.categories.zip t.categories,
      pair.1.sheet.AgreesOn TestStep.columns pair.2.sheet

/-- Two conversions agree in everything but the notes on skipped rows. -/
structure Conversion.SameButNotes (a b : Conversion) : Prop where
  dataset : a.dataset = b.dataset
  categorySheetCount : a.summary.categorySheetCount = b.summary.categorySheetCount
  warnings : Issue.warnings a.issues = Issue.warnings b.issues
  notes : ∀ issue ∈ a.issues ++ b.issues, issue.severity = .info →
    issue.code = Issue.blankStepRowCode ∨ issue.code = Issue.blankCaseRowCode

/-! ## What is read of a row -/

namespace SheetRow

variable {row other : SheetRow}

/-- The step a row defines depends on the cells that are read. -/
theorem ofRow?_congr (hlocation : row.location = other.location)
    (hfields : ∀ column ∈ TestStep.columns, row.cells.field column = other.cells.field column) :
    TestStep.ofRow? row = TestStep.ofRow? other := by
  have hid := hfields TestStep.idColumn (by simp [TestStep.columns])
  have hclass := hfields TestStep.classColumn (by simp [TestStep.columns])
  have hmethod := hfields TestStep.methodColumn (by simp [TestStep.columns])
  have hdescription := hfields TestStep.descriptionColumn (by simp [TestStep.columns])
  have hparameters := hfields TestStep.parametersColumn (by simp [TestStep.columns])
  unfold TestStep.ofRow?
  rw [hid, hclass, hmethod, hdescription, hparameters, hlocation]

/-- What a row of the overview says depends on the cells that are read. -/
theorem reading?_congr (hlocation : row.location = other.location)
    (hfields : ∀ column ∈ TestCase.columns, row.cells.field column = other.cells.field column) :
    row.reading? = other.reading? := by
  have hid := hfields TestCase.idColumn (by simp [TestCase.columns])
  have hdescription := hfields TestCase.descriptionColumn (by simp [TestCase.columns])
  have hsteps := hfields TestCase.stepsColumn (by simp [TestCase.columns])
  have hcontainer := hfields TestCase.containerColumn (by simp [TestCase.columns])
  unfold reading? testCase references container referenceText caseId
  rw [hid, hdescription, hsteps, hcontainer, hlocation]

end SheetRow

/-- An empty row defines no step. -/
theorem TestStep.ofRow?_nil (location : Location) : ofRow? ⟨location, []⟩ = none := by
  rw [ofRow?_eq, if_pos]
  exact Row.field_eq_empty_of_length_le (Nat.zero_le _)

/-- An empty row of the overview says nothing. -/
theorem SheetRow.reading?_nil (location : Location) :
    reading? ⟨location, []⟩ = none := by
  have hid : caseId ⟨location, []⟩ = "" := Row.field_eq_empty_of_length_le (Nat.zero_le _)
  have hrefs : referenceText ⟨location, []⟩ = "" := Row.field_eq_empty_of_length_le (Nat.zero_le _)
  rw [reading?, if_pos hid, if_pos hrefs]

namespace Sheet

variable {sheet other : Sheet}

/-- Sheets of one name that agree in the columns read define the same steps. -/
theorem filterMap_ofRow?_congr (hname : sheet.name = other.name)
    (h : sheet.AgreesOn TestStep.columns other) :
    sheet.dataRows.filterMap TestStep.ofRow? = other.dataRows.filterMap TestStep.ofRow? := by
  refine filterMap_dataRows_congr TestStep.ofRow?_nil fun position => ?_
  refine SheetRow.ofRow?_congr ?_ (h (position + 1) (by omega))
  rw [dataRow, dataRow, hname]

/-- Overviews of one name that agree in the columns read say the same. -/
theorem filterMap_reading?_congr (hname : sheet.name = other.name)
    (h : sheet.AgreesOn TestCase.columns other) :
    sheet.dataRows.filterMap SheetRow.reading? = other.dataRows.filterMap SheetRow.reading? := by
  refine filterMap_dataRows_congr SheetRow.reading?_nil fun position => ?_
  refine SheetRow.reading?_congr ?_ (h (position + 1) (by omega))
  rw [dataRow, dataRow, hname]

end Sheet

/-! ## Warnings are functions of the readings -/

theorem Issue.warnings_append (issues more : List Issue) :
    warnings (issues ++ more) = warnings issues ++ warnings more := by
  rw [warnings, List.filter_append, warnings, warnings]

theorem Issue.warnings_eq_self {issues : List Issue}
    (h : ∀ issue ∈ issues, issue.severity = .warning) : warnings issues = issues := by
  rw [warnings, List.filter_eq_self]
  simpa using h

namespace Catalog

theorem warnings_blankIssues (row : SheetRow) : Issue.warnings (blankIssues row) = [] := by
  unfold blankIssues
  split <;> rfl

theorem severity_of_mem_stepIssues {policy : DuplicatePolicy} {earlier : List TestStep}
    {step : TestStep} {issue : Issue} (h : issue ∈ stepIssues policy earlier step) :
    issue.severity = .warning := by
  unfold stepIssues redefinitionIssues at h
  split at h
  · cases h
  · cases policy with
    | reject => cases h
    | lastWins => rw [List.mem_singleton.mp h]; rfl
    | firstWins => rw [List.mem_singleton.mp h]; rfl

/-- What a scan reports without a warning is a note on a row without an identifier. -/
theorem code_of_mem_rowIssues {policy : DuplicatePolicy} {earlier : List SheetRow}
    {row : SheetRow} {issue : Issue} (h : issue ∈ rowIssues policy earlier row)
    (hinfo : issue.severity = .info) : issue.code = Issue.blankStepRowCode := by
  unfold rowIssues blankIssues at h
  split at h
  · split at h
    · rw [List.mem_singleton.mp h]
      rfl
    · cases h
  · rw [severity_of_mem_stepIssues h] at hinfo
    cases hinfo

/-- A scan warns about steps, after the steps before them. -/
theorem warnings_running_rowIssues (policy : DuplicatePolicy) (rows : List SheetRow) :
    Issue.warnings (Report.running (rowIssues policy) [] rows) =
      Report.running (stepIssues policy) [] (rows.filterMap TestStep.ofRow?) := by
  rw [Issue.warnings, Report.filter_running]
  refine Report.running_filterMap (fun earlier row => ?_) [] rows
  rw [TestStep.ofRow?_eq, rowIssues, filterMap_ofRow?]
  by_cases hid : row.stepId = ""
  · rw [if_pos hid, if_pos hid]
    exact warnings_blankIssues row
  · rw [if_neg hid, if_neg hid]
    exact Issue.warnings_eq_self fun issue => severity_of_mem_stepIssues

end Catalog

namespace TestCase

theorem severity_of_mem_caseIssues {earlier : List TestCase} {testCase : TestCase} {issue : Issue}
    (h : issue ∈ caseIssues earlier testCase) : issue.severity = .warning := by
  unfold caseIssues at h
  split at h
  · rw [List.mem_singleton.mp h]
    rfl
  · cases h

/-- What is reported on an overview without a warning is a note on a row without an identifier. -/
theorem code_of_mem_overviewIssues {earlier : List SheetRow} {row : SheetRow} {issue : Issue}
    (h : issue ∈ overviewIssues earlier row) (hinfo : issue.severity = .info) :
    issue.code = Issue.blankCaseRowCode := by
  cases hcase : row.testCase? with
  | none =>
    rw [overviewIssues_of_none hcase] at h
    split at h
    · rw [List.mem_singleton.mp h]
      rfl
    · cases h
  | some testCase =>
    rw [overviewIssues_of_some hcase] at h
    rw [severity_of_mem_caseIssues h] at hinfo
    cases hinfo

/-- The warnings on an overview are about test cases, after the test cases before them. -/
theorem warnings_running_overviewIssues (rows : List SheetRow) :
    Issue.warnings (Report.running overviewIssues [] rows) =
      Report.running caseIssues [] (rows.filterMap SheetRow.testCase?) := by
  rw [Issue.warnings, Report.filter_running]
  refine Report.running_filterMap (fun earlier row => ?_) [] rows
  cases hcase : row.testCase? with
  | none =>
    rw [overviewIssues_of_none hcase]
    cases row.cells.hasContent <;> rfl
  | some testCase =>
    rw [overviewIssues_of_some hcase]
    exact Issue.warnings_eq_self fun issue => severity_of_mem_caseIssues

end TestCase

/-! ## Selections that read the same -/

namespace Selection

/-- The selected sheets define the same steps and say the same test cases. -/
structure ReadsSame (s t : Selection) : Prop where
  categoryCount : s.categories.length = t.categories.length
  steps : s.categoryRows.filterMap TestStep.ofRow? = t.categoryRows.filterMap TestStep.ofRow?
  readings : s.overviewRows.filterMap SheetRow.reading? =
    t.overviewRows.filterMap SheetRow.reading?

variable {s t : Selection}

/-- What is read of the category sheets is read sheet by sheet. -/
theorem filterMap_categoryRows_congr {categories others : List PlacedSheet}
    (h : List.Forall₂ (fun a b : PlacedSheet => a.sheet.dataRows.filterMap TestStep.ofRow? =
      b.sheet.dataRows.filterMap TestStep.ofRow?) categories others) :
    ((categories.map PlacedSheet.sheet).flatMap Sheet.dataRows).filterMap TestStep.ofRow? =
      ((others.map PlacedSheet.sheet).flatMap Sheet.dataRows).filterMap TestStep.ofRow? := by
  induction h with
  | nil => rfl
  | cons hsheet _ ih =>
    rw [List.map_cons, List.map_cons, List.flatMap_cons, List.flatMap_cons, List.filterMap_append,
      List.filterMap_append, hsheet, ih]

/-- Workbooks that show the same are read the same. -/
theorem readsSame_of_showsSame {wb other : Workbook} {layout : Layout}
    (h : wb.ShowsSame other layout) (hs : layout.resolve wb = .ok s)
    (ht : layout.resolve other = .ok t) (hplaces : s.places = t.places) : s.ReadsSame t := by
  obtain ⟨hoverview, hcategories⟩ := Prod.mk.inj hplaces
  have hlength : s.categories.length = t.categories.length := by
    simpa using congrArg List.length hcategories
  have hplace : List.Forall₂ (fun a b : PlacedSheet => a.place = b.place)
      s.categories t.categories := by
    have hequal : List.Forall₂ (· = ·) (s.categories.map PlacedSheet.place)
        (t.categories.map PlacedSheet.place) := by rw [hcategories, List.forall₂_eq_eq_eq]
    rwa [List.forall₂_map_left_iff, List.forall₂_map_right_iff] at hequal
  refine ⟨hlength, filterMap_categoryRows_congr ?_, ?_⟩
  · rw [List.forall₂_iff_zip]
    refine ⟨hlength, fun {a b} hpair => ?_⟩
    have hname := (Prod.mk.inj ((List.forall₂_iff_zip.mp hplace).2 hpair)).2
    exact Sheet.filterMap_ofRow?_congr hname (h.categories s t hs ht (a, b) hpair)
  · exact Sheet.filterMap_reading?_congr (Prod.mk.inj hoverview).2 (h.overview s t hs ht)

theorem ReadsSame.testCases (h : s.ReadsSame t) :
    s.overviewRows.filterMap SheetRow.testCase? = t.overviewRows.filterMap SheetRow.testCase? := by
  have hbind : SheetRow.testCase? = fun row => row.reading?.bind Except.toOption :=
    funext SheetRow.testCase?_eq_bind
  rw [hbind, ← List.filterMap_filterMap, ← List.filterMap_filterMap, h.readings]

/-- The warnings in a report are functions of what is read. -/
theorem warnings_report (s : Selection) (policy : DuplicatePolicy) :
    Issue.warnings (s.report policy) =
      Report.running (Catalog.stepIssues policy) []
          (s.categoryRows.filterMap TestStep.ofRow?) ++
        Report.running TestCase.caseIssues [] (s.overviewRows.filterMap SheetRow.testCase?) := by
  rw [report, Issue.warnings_append, Catalog.warnings_running_rowIssues,
    TestCase.warnings_running_overviewIssues]

/-- What is no warning in a report is a note on a skipped row. -/
theorem code_of_mem_report {policy : DuplicatePolicy} {issue : Issue}
    (h : issue ∈ s.report policy) (hinfo : issue.severity = .info) :
    issue.code = Issue.blankStepRowCode ∨ issue.code = Issue.blankCaseRowCode := by
  rcases List.mem_append.mp h with h | h
  · obtain ⟨earlier, row, hrow⟩ := Report.exists_of_mem_running h
    exact Or.inl (Catalog.code_of_mem_rowIssues hrow hinfo)
  · obtain ⟨earlier, row, hrow⟩ := Report.exists_of_mem_running h
    exact Or.inr (TestCase.code_of_mem_overviewIssues hrow hinfo)

end Selection

/-! ## Conversions -/

namespace Conversion

variable {s t : Selection}

/-- Selections that read the same have the same outcome. -/
theorem outcome_congr (h : s.ReadsSame t) (policy : DuplicatePolicy) :
    (ofSelection s policy).outcome = (ofSelection t policy).outcome := by
  have hbuild : (Catalog.build (s.categories.map PlacedSheet.sheet) policy).outcome =
      (Catalog.build (t.categories.map PlacedSheet.sheet) policy).outcome := by
    rw [Catalog.build, Catalog.outcome_addRows, Catalog.build, Catalog.outcome_addRows,
      ← filterMap_ofRow?, ← filterMap_ofRow?]
    exact congrArg (Catalog.insertAll policy Catalog.empty) h.steps
  have hassemble : ∀ catalog, (TestCase.assemble s.overview.sheet catalog).outcome =
      (TestCase.assemble t.overview.sheet catalog).outcome := by
    intro catalog
    rw [TestCase.outcome_assemble_eq_mapM, TestCase.outcome_assemble_eq_mapM]
    exact congrArg (List.mapM (TestCase.confirm catalog)) h.readings
  rw [outcome_ofSelection, outcome_ofSelection, hbuild]
  simp only [hassemble]

/-- What a conversion comes to once its layout is resolved. -/
theorem convert_of_resolve_eq_ok {wb : Workbook} {options : Options}
    (h : options.layout.resolve wb = .ok s) :
    convert wb options = (ofSelection s options.onDuplicate).outcome.map fun dataset =>
      let issues := (ofSelection s options.onDuplicate).issues
      { dataset, issues, summary := summarize s dataset issues } := by
  unfold convert
  simp only [h]
  cases (ofSelection s options.onDuplicate).outcome <;> rfl

/-- Conversions of selections that read the same agree. -/
theorem agree_of_readsSame {wb other : Workbook} {options : Options}
    (hs : options.layout.resolve wb = .ok s) (ht : options.layout.resolve other = .ok t)
    (h : s.ReadsSame t) : Agree SameButNotes (convert wb options) (convert other options) := by
  have houtcome := outcome_congr h options.onDuplicate
  rw [convert_of_resolve_eq_ok hs, convert_of_resolve_eq_ok ht, ← houtcome]
  cases hdataset : (ofSelection s options.onDuplicate).outcome with
  | error error => exact .error error
  | ok dataset =>
    -- both selections are accepted, so the issues are the reports on the selected rows
    have hleft := convert_of_resolve_eq_ok hs
    have hright := convert_of_resolve_eq_ok ht
    rw [hdataset] at hleft
    rw [← houtcome, hdataset] at hright
    obtain ⟨selection, catalog, hselection, hmade⟩ := exists_madeFrom_of_convert hleft
    obtain ⟨selection', catalog', hselection', hmade'⟩ := exists_madeFrom_of_convert hright
    obtain rfl : s = selection := Except.ok.inj (hs.symm.trans hselection)
    obtain rfl : t = selection' := Except.ok.inj (ht.symm.trans hselection')
    refine .ok ⟨rfl, h.categoryCount, ?_, ?_⟩
    · rw [hmade.issues, hmade'.issues, Selection.warnings_report, Selection.warnings_report,
        h.steps, h.testCases]
    · intro issue hissue
      rw [hmade.issues, hmade'.issues] at hissue
      rcases List.mem_append.mp hissue with hissue | hissue
      · exact Selection.code_of_mem_report hissue
      · exact Selection.code_of_mem_report hissue

/-- Only the cells that are read matter. -/
theorem convert_congr {wb other : Workbook} {options : Options}
    (h : wb.ShowsSame other options.layout) :
    Agree SameButNotes (convert wb options) (convert other options) := by
  rcases (Layout.resolve_agree h.names options.layout).error_or_ok with
    ⟨error, hs, ht⟩ | ⟨s, t, hs, ht, hplaces⟩
  · rw [convert_of_resolve_eq_error hs, convert_of_resolve_eq_error ht]
    exact .error _
  · exact agree_of_readsSame hs ht (Selection.readsSame_of_showsSame h hs ht hplaces)

/-- A workbook with a redefined step and nothing beside the cells that are read. -/
def bareBook : Workbook where
  sheets := [
    { name := "Notes" },
    { name := "Cases", rows := [[], [.empty, .text "C", .empty, .text "5", .empty, .text "K"]] },
    { name := "Steps", rows := [[],
      [.text "5", .text "Door", .text "open"],
      [.text "5", .text "Door", .text "shut"]] }]

/-- The same cells among headers, remarks and white space, with a number for a text. -/
def remarkedBook : Workbook where
  sheets := [
    { name := "Notes", rows := [[.text "not read"]] },
    { name := "Cases", rows := [[.text "Document", .text "Id"],
      [.text "D", .text " C ", .empty, .number ⟨0x4014000000000000⟩, .text "later", .text "K",
        .bool true],
      [.text "a remark"]] },
    { name := "Steps", rows := [[.text "Id", .text "Class"],
      [.number ⟨0x4014000000000000⟩, .text "Door ", .text "open"],
      [.text "5", .text "Door", .text " shut", .text " ", .empty, .text "a remark"],
      [.empty, .empty, .empty, .empty, .empty, .text "a remark"]] }]

theorem showsSame_books : bareBook.ShowsSame remarkedBook { } where
  names := rfl
  overview := by
    intro s t hs ht
    cases hs
    cases ht
    exact Sheet.agreesOn_of_lt (Nat.le_add_right 2 1) (Nat.le_refl 3) (by decide +kernel)
  categories := by
    intro s t hs ht
    cases hs
    cases ht
    intro pair hpair
    rw [List.mem_singleton.mp hpair]
    exact Sheet.agreesOn_of_lt (Nat.le_add_right 3 1) (Nat.le_refl 4) (by decide +kernel)

theorem books_sameButNotes :
    ∃ a b, bareBook ≠ remarkedBook ∧
      convert bareBook { onDuplicate := .lastWins } = .ok a ∧
      convert remarkedBook { onDuplicate := .lastWins } = .ok b ∧ a.SameButNotes b := by
  have hdiffer : bareBook ≠ remarkedBook := by decide +kernel
  have hagree : Agree SameButNotes (convert bareBook { onDuplicate := .lastWins })
      (convert remarkedBook { onDuplicate := .lastWins }) := convert_congr showsSame_books
  obtain ⟨conversion, hok⟩ : ∃ a, convert bareBook { onDuplicate := .lastWins } = .ok a :=
    Traversal.exists_eq_ok_of_isOk (by decide +kernel)
  rcases hagree.error_or_ok with ⟨error, herror, -⟩ | ⟨a, b, ha, hb, hsame⟩
  · rw [hok] at herror
    cases herror
  · exact ⟨a, b, hdiffer, ha, hb, hsame⟩

end Conversion

end Conformance
