import Conformance.Step.Reading

set_option autoImplicit false

/-!
# Test cases

A data row of the overview describes a test case when its second column is not empty.  Its fourth
column lists the steps to run, each of which must be in the catalog.  A row that lists steps but
has no identifier is an error, so no reference goes unchecked; a row with neither is skipped, and
reported if it has content.  Cases that share an identifier are all kept, with a warning.
-/

namespace Conformance

/-- A test case: the steps to run, in order. -/
structure TestCase where
  id : String
  description : String
  container : String
  steps : List String
  location : Location
  deriving DecidableEq, Repr, Inhabited

namespace TestCase

/-- Columns of the overview: identifier, description, steps, container.  The first and the fifth
column are not read. -/
def idColumn : Nat := 1
def descriptionColumn : Nat := 2
def stepsColumn : Nat := 3
def containerColumn : Nat := 5

/-- What is wrong with the first reference that names no step of the catalog. -/
def badReference? (catalog : Catalog) (id : String) (location : Location)
    (references : List String) : Option ConvertError :=
  references.zipIdx.findSome? fun (reference, position) =>
    if reference = "" then some (.emptyStepReference id position location)
    else if catalog.contains reference then none
    else some (.unknownStepReference id reference location)

/-- The test case a row describes, if it has an identifier. -/
def ofRow? (catalog : Catalog) (row : SheetRow) : Except ConvertError (Option TestCase) :=
  let id := row.cells.field idColumn
  let references := row.cells.field stepsColumn
  if id = "" then
    if references = "" then .ok none
    else .error (.caseWithoutIdentifier references row.location)
  else
    let steps := Text.items references
    match badReference? catalog id row.location steps with
    | some error => .error error
    | none => .ok (some {
        id
        description := row.cells.field descriptionColumn
        container := row.cells.field containerColumn
        steps
        location := row.location })

/-- The note on a row that has content but describes no test case. -/
def blankRowIssue (location : Location) : Issue :=
  { severity := .info, code := Issue.blankCaseRowCode
    message := "row has content but no test case identifier; skipped", location := some location }

/-- The warning for a test case whose identifier occurred before. -/
def duplicateIssue (testCase : TestCase) (first : Location) : Issue :=
  { severity := .warning, code := Issue.duplicateCaseCode
    message := s!"test case '{testCase.id}' also defined at {first.text}"
    location := some testCase.location }

/-- The issues a row gives rise to, after the cases read before it. -/
def rowIssues (earlier : List TestCase) (row : SheetRow) : Option TestCase → List Issue
  | none => if row.cells.hasContent then [blankRowIssue row.location] else []
  | some testCase =>
    match earlier.find? fun other => other.id == testCase.id with
    | some first => [duplicateIssue testCase first.location]
    | none => []

/-- Adds the cases that the rows describe to those read before. -/
def addRows (catalog : Catalog) : List TestCase → List SheetRow → Audit (List TestCase)
  | earlier, [] => .ok earlier
  | earlier, row :: rows =>
    match ofRow? catalog row with
    | .error error => .fail error
    | .ok testCase? =>
      (⟨rowIssues earlier row testCase?, .ok (earlier ++ testCase?.toList)⟩ : Audit _).bind
        fun cases => addRows catalog cases rows

/-- The test cases of the overview, in row order. -/
def assemble (overview : Sheet) (catalog : Catalog) : Audit (List TestCase) :=
  addRows catalog [] overview.dataRows

end TestCase

end Conformance
