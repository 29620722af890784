import Conformance.Proofs.Catalog.Remark
import Conformance.Proofs.Conversion.Report
import Conformance.Proofs.Layout.Resolution
import Conformance.Proofs.TestCase.Remark

set_option autoImplicit false

/-!
# What issues and errors are about

A conversion reads the data rows of the selected sheets and nothing else.  So each of its issues is a
remark on one of these rows, made in view of others of them (`about_of_mem_issues`), and an error
either concerns the layout or is about such rows (`about_of_convert`).  The location that comes with
an issue is that of the row it is about, and an error locates the rows it is about.
-/

namespace Conformance

namespace Workbook

/-- The row is a data row of a sheet of the workbook. -/
def HasRow (wb : Workbook) (row : SheetRow) : Prop := ∃ sheet ∈ wb.sheets, row ∈ sheet.dataRows

end Workbook

/-- The row that an issue is about, among the rows that were read. -/
inductive Issue.About (policy : DuplicatePolicy) (read : SheetRow → Prop) (issue : Issue) :
    SheetRow → Prop where
  | step {earlier : List SheetRow} {row : SheetRow} {said : List Issue}
      (hearlier : ∀ other ∈ earlier, read other) (hrow : read row)
      (hremark : Catalog.Remark policy earlier row said) (hissue : issue ∈ said) :
      About policy read issue row
  | testCase {earlier : List SheetRow} {row : SheetRow} {said : List Issue}
      (hearlier : ∀ other ∈ earlier, read other) (hrow : read row)
      (hremark : TestCase.Remark earlier row said) (hissue : issue ∈ said) :
      About policy read issue row

namespace ConvertError

/-- The locations that the text of an error names. -/
def locations : ConvertError → List Location
  | .layout _ => []
  | .unknownStepReference _ _ location | .emptyStepReference _ _ location
  | .caseWithoutIdentifier _ location => [location]
  | .duplicateStep _ first second => [first, second]

/-- An error that concerns the layout or is about rows that were read. -/
inductive About (read : SheetRow → Prop) : ConvertError → Prop where
  | layout (cause : LayoutError) : About read (.layout cause)
  /-- Two rows define one identifier. -/
  | repeated {first second : SheetRow} (hfirst : read first) (hsecond : read second)
      (hid : first.stepId = second.stepId) :
      About read (.duplicateStep second.stepId first.location second.location)
  /-- A row of the overview does not fit the identifiers. -/
  | fault {ids : List String} {row : SheetRow} {error : ConvertError} (hrow : read row)
      (hfault : row.Fault ids error) : About read error

end ConvertError

variable {read : SheetRow → Prop}

/-! ## Locations are those of rows -/

theorem Catalog.Remark.location_eq {policy : DuplicatePolicy} {earlier : List SheetRow}
    {row : SheetRow} {said : List Issue} (h : Remark policy earlier row said) {issue : Issue}
    (hissue : issue ∈ said) : issue.location = some row.location := by
  cases h with
  | content | ignored | replaces => rw [List.mem_singleton.mp hissue]
  | nothing | new => cases hissue

theorem TestCase.Remark.location_eq {earlier : List SheetRow} {row : SheetRow} {said : List Issue}
    (h : Remark earlier row said) {issue : Issue} (hissue : issue ∈ said) :
    issue.location = some row.location := by
  cases h with
  | content | again => rw [List.mem_singleton.mp hissue]
  | nothing | new => cases hissue

/-- An issue comes with the location of the row that it is about, and that row was read. -/
theorem Issue.About.location_eq {policy : DuplicatePolicy} {issue : Issue} {row : SheetRow}
    (h : issue.About policy read row) : read row ∧ issue.location = some row.location := by
  cases h with
  | step _ hrow hremark hissue => exact ⟨hrow, hremark.location_eq hissue⟩
  | testCase _ hrow hremark hissue => exact ⟨hrow, hremark.location_eq hissue⟩

/-- An error locates rows that were read. -/
theorem ConvertError.About.exists_row {error : ConvertError} (h : error.About read)
    {location : Location} (hlocation : location ∈ error.locations) :
    ∃ row, read row ∧ row.location = location := by
  cases h with
  | layout => cases hlocation
  | repeated hfirst hsecond =>
    rcases List.mem_pair.mp hlocation with rfl | rfl
    · exact ⟨_, hfirst, rfl⟩
    · exact ⟨_, hsecond, rfl⟩
  | @fault _ row _ hrow hfault =>
    cases hfault with
    | unidentified | empty | unknown => exact ⟨row, hrow, (List.mem_singleton.mp hlocation).symm⟩

/-- What holds of the rows that were read may be said of them. -/
theorem Issue.About.mono {policy : DuplicatePolicy} {issue : Issue} {row : SheetRow}
    {other : SheetRow → Prop} (himp : ∀ row, read row → other row)
    (h : issue.About policy read row) : issue.About policy other row := by
  cases h with
  | step hearlier hrow hremark hissue =>
    exact .step (fun row hmem => himp row (hearlier row hmem)) (himp _ hrow) hremark hissue
  | testCase hearlier hrow hremark hissue =>
    exact .testCase (fun row hmem => himp row (hearlier row hmem)) (himp _ hrow) hremark hissue

theorem ConvertError.About.mono {error : ConvertError} {other : SheetRow → Prop}
    (himp : ∀ row, read row → other row) (h : error.About read) : error.About other := by
  cases h with
  | layout cause => exact .layout cause
  | repeated hfirst hsecond hid => exact .repeated (himp _ hfirst) (himp _ hsecond) hid
  | fault hrow hfault => exact .fault (himp _ hrow) hfault

/-! ## The rows that are read -/

namespace Selection

variable {wb : Workbook} {layout : Layout} {s : Selection}

theorem hasRow_of_mem_overviewRows (h : layout.resolve wb = .ok s) {row : SheetRow}
    (hrow : row ∈ s.overviewRows) : wb.HasRow row := by
  obtain ⟨hoverview, -, -⟩ := Layout.resolve_eq_ok_iff.mp h
  exact ⟨s.overview.sheet, List.mem_of_getElem? (Workbook.getElem?_of_resolve hoverview), hrow⟩

theorem hasRow_of_mem_categoryRows (h : layout.resolve wb = .ok s) {row : SheetRow}
    (hrow : row ∈ s.categoryRows) : wb.HasRow row := by
  obtain ⟨sheet, hsheet, hrow⟩ := List.mem_flatMap.mp hrow
  obtain ⟨placed, hplaced, rfl⟩ := List.mem_map.mp hsheet
  exact ⟨placed.sheet, List.mem_of_getElem? (Layout.getElem?_of_mem_categories h hplaced), hrow⟩

end Selection

namespace Conversion

variable {wb : Workbook} {options : Options}

/-- Every issue is about a data row of the workbook. -/
theorem about_of_mem_issues {conversion : Conversion} (h : convert wb options = .ok conversion)
    {issue : Issue} (hissue : issue ∈ conversion.issues) :
    ∃ row, issue.About options.onDuplicate wb.HasRow row := by
  obtain ⟨selection, catalog, hlayout, hmade⟩ := exists_madeFrom_of_convert h
  rw [hmade.issues, Selection.report] at hissue
  rcases List.mem_append.mp hissue with hsteps | hcases
  · have hcovers := (Catalog.covers_remark_iff hmade.accepts.distinct).mpr rfl
    obtain ⟨before, row, after, said, hrows, hremark, hmem⟩ := hcovers.exists_of_mem hsteps
    have hread : ∀ other ∈ before ++ row :: after, wb.HasRow other := fun other hother =>
      Selection.hasRow_of_mem_categoryRows hlayout (hrows ▸ hother)
    exact ⟨row, .step (fun other hother => hread other (List.mem_append_left _ hother))
      (hread row (by simp)) hremark hmem⟩
  · have hcovers := (TestCase.covers_remark_iff hmade.accepts.fits).mpr rfl
    obtain ⟨before, row, after, said, hrows, hremark, hmem⟩ := hcovers.exists_of_mem hcases
    have hread : ∀ other ∈ before ++ row :: after, wb.HasRow other := fun other hother =>
      Selection.hasRow_of_mem_overviewRows hlayout (hrows ▸ hother)
    exact ⟨row, .testCase (fun other hother => hread other (List.mem_append_left _ hother))
      (hread row (by simp)) hremark hmem⟩

/-- Every error concerns the layout or is about data rows of the workbook. -/
theorem about_of_convert {error : ConvertError} (h : convert wb options = .error error) :
    error.About wb.HasRow := by
  cases firstViolation_of_convert h with
  | layout => exact .layout _
  | selection hlayout hviolates =>
    cases hviolates with
    | repeated _ hrepeat =>
      obtain ⟨before, between, after, hrows, -, hid⟩ := hrepeat
      have hread : ∀ row ∈ before ++ _ :: (between ++ _ :: after), wb.HasRow row := fun row hrow =>
        Selection.hasRow_of_mem_categoryRows hlayout (List.mem_of_mem_filter (hrows ▸ hrow))
      exact .repeated (hread _ (by simp)) (hread _ (by simp)) hid.symm
    | fault _ hrows _ hfault =>
      exact .fault (Selection.hasRow_of_mem_overviewRows hlayout (by simp [hrows])) hfault

end Conversion

end Conformance
