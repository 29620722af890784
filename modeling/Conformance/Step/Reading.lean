import Conformance.Step.Catalog

set_option autoImplicit false

/-!
# Reading category sheets

A data row of a category sheet defines a step when its first column is not empty.  A row without
an identifier defines nothing; it is reported if any of its cells has content.
-/

namespace Conformance

namespace TestStep

/-- Columns of a category sheet: identifier, class, method, description, parameters. -/
def idColumn : Nat := 0
def classColumn : Nat := 1
def methodColumn : Nat := 2
def descriptionColumn : Nat := 3
def parametersColumn : Nat := 4

/-- The step a row defines, if it has an identifier. -/
def ofRow? (row : SheetRow) : Option TestStep :=
  let id := row.cells.field idColumn
  if id = "" then none
  else some {
    id
    className := row.cells.field classColumn
    method := row.cells.field methodColumn
    description := row.cells.field descriptionColumn
    parameters := Text.items (row.cells.field parametersColumn)
    location := row.location }

end TestStep

namespace Catalog

/-- The note on a row that has content but no identifier. -/
def blankRowIssue (location : Location) : Issue :=
  { severity := .info, code := Issue.blankStepRowCode
    message := "row has content but no step identifier; skipped", location := some location }

/-- Adds what a row defines. -/
def addRow (policy : DuplicatePolicy) (c : Catalog) (row : SheetRow) : Audit Catalog :=
  match TestStep.ofRow? row with
  | some step => c.insert step policy
  | none => if row.cells.hasContent then ⟨[blankRowIssue row.location], .ok c⟩ else .ok c

/-- Adds what the rows define, in order. -/
def addRows (policy : DuplicatePolicy) : Catalog → List SheetRow → Audit Catalog
  | c, [] => .ok c
  | c, row :: rows => (c.addRow policy row).bind fun c => addRows policy c rows

/-- The catalog of the steps that the data rows of the sheets define, scanned in order. -/
def build (sheets : List Sheet) (policy : DuplicatePolicy) : Audit Catalog :=
  addRows policy empty (sheets.flatMap Sheet.dataRows)

end Catalog

end Conformance
