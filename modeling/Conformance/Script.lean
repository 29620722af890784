import Conformance.Dataset
import Conformance.Program
import Conformance.Schema
import Conformance.Sql.Literal

set_option autoImplicit false

/-!
# Scripts

A script is the text of a schema followed by one `INSERT` statement per row of a dataset: steps,
parameters, test cases, links.  A header in comments may stand before it.  A script exists only if
every value has a written form.
-/

namespace Conformance

open Sql (Value LiteralError quoteIdentifier)

/-- Why there is no script for a dataset. -/
inductive ExportError where
  | unsafeLiteral (table column : String) (row : Int) (reason : LiteralError)
  deriving DecidableEq, Repr

namespace ExportError

/-- The text shown for the error. -/
def message : ExportError → String
  | .unsafeLiteral table column row reason =>
    s!"Unsafe literal in {table}.{column} (row {row}): {reason.message}"

end ExportError

/-- A row to be written: the table, the number of the row, and a value for each column. -/
structure Insert where
  table : Table
  row : Int
  values : List Value
  deriving DecidableEq, Repr, Inhabited

namespace Insert

/-- The written values, each with its column; fails at the first that cannot be written. -/
def literals (insert : Insert) : Except ExportError (List String) :=
  (insert.table.columns.zip insert.values).mapM fun (column, value) =>
    value.literal.mapError (.unsafeLiteral insert.table.name column insert.row)

/-- The statement with its values filled in. -/
def statement (insert : Insert) (literals : List String) : String :=
  let table := quoteIdentifier insert.table.name
  let columns := ", ".intercalate (insert.table.columns.map quoteIdentifier)
  let values := ", ".intercalate literals
  s!"INSERT INTO {table} ({columns}) VALUES ({values});\n"

/-- The line of a row. -/
def line (insert : Insert) : Except ExportError String := do
  let literals ← insert.literals
  return insert.statement literals

end Insert

namespace StepRow

/-- The row as it is written.  The identifier goes to the column for the description. -/
def insert (row : StepRow) : Insert where
  table := .steps
  row := row.id
  values :=
    [.integer row.id, .text row.identifier, .text row.className, .text row.method,
      .ofCount row.parameterCount]

end StepRow

namespace ParameterRow

/-- The row as it is written.  No test is named. -/
def insert (row : ParameterRow) : Insert where
  table := .parameters
  row := row.id
  values :=
    [.integer row.id, .integer row.stepId, .null, .text row.value, .ofCount row.order]

end ParameterRow

namespace CaseRow

/-- The row as it is written.  The container goes to its own column if the schema has one, and to
the column for the group if not.  Every case is enabled and expected to pass. -/
def insert (schema : Schema) (row : CaseRow) : Insert where
  table := schema.casesTable
  row := row.id
  values :=
    [.integer row.id, if schema.hasCaseContainer then .null else .ofOption row.container,
      .text row.identifier, .text row.description, .null, .integer 1, .integer 1] ++
    (if schema.hasCaseContainer then [.ofOption row.container] else [])

end CaseRow

namespace LinkRow

/-- The row as it is written.  It has no status yet. -/
def insert (row : LinkRow) : Insert where
  table := .links
  row := row.id
  values :=
    [.integer row.id, .integer row.stepId, .integer row.caseId, .ofCount row.order, .null]

end LinkRow

/-- A text with a line end added where it does not end a line. -/
def endLine (text : String) : String :=
  if text.toList.getLast? = some '\n' then text else text ++ "\n"

namespace Dataset

/-- The rows to be written, in order. -/
def inserts (dataset : Dataset) (schema : Schema) : List Insert :=
  dataset.steps.map StepRow.insert ++ dataset.parameters.map ParameterRow.insert ++
    dataset.cases.map (CaseRow.insert schema) ++ dataset.links.map LinkRow.insert

/-- The comment on what the script holds. -/
def header (dataset : Dataset) : String :=
  s!"-- Generated by {programName} {programVersion}\n" ++
    s!"-- {dataset.steps.length} steps, {dataset.parameters.length} parameters, " ++
    s!"{dataset.cases.length} test cases, {dataset.links.length} links\n"

/-- What stands before the rows. -/
def preamble (dataset : Dataset) (schema : Schema) (withHeader : Bool) : String :=
  endLine ((if withHeader then dataset.header else "") ++ schema.text)

/-- The script of a dataset.  Fails at the first value, in the order of writing, that has no
written form. -/
def script (dataset : Dataset) (schema : Schema) (withHeader : Bool) :
    Except ExportError String := do
  let lines ← (dataset.inserts schema).mapM Insert.line
  return dataset.preamble schema withHeader ++ String.join lines

end Dataset

end Conformance
