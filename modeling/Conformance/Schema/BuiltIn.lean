import Conformance.Schema.Table

set_option autoImplicit false

/-!
# The built-in schema

The definitions that a script begins with unless another schema is given.  Besides the four tables
that receive rows there are two that stay empty.
-/

namespace Conformance

/-- What a column of the built-in schema holds. -/
inductive ColumnKind where
  /-- The number of the row. -/
  | key
  | integer
  | text
  deriving DecidableEq, Repr

namespace ColumnKind

/-- The type and the constraints of the column. -/
def spelling : ColumnKind → String
  | .key => "INTEGER PRIMARY KEY AUTOINCREMENT"
  | .integer => "INTEGER"
  | .text => "TEXT"

end ColumnKind

/-- A table of the built-in schema. -/
structure TableDesign where
  name : String
  columns : List (String × ColumnKind)
  deriving DecidableEq, Repr

namespace TableDesign

/-- The line of a column. -/
def columnLine (column : String × ColumnKind) : String :=
  s!"    \"{column.1}\" {column.2.spelling}"

/-- The statement that creates the table. -/
def definition (design : TableDesign) : String :=
  let columns := ",\n".intercalate (design.columns.map columnLine)
  s!"CREATE TABLE \"{design.name}\" (\n{columns}\n);\n"

end TableDesign

/-- The tables of the built-in schema. -/
def builtInTables : List TableDesign :=
  [⟨"TestSteps",
      [("Id", .key), ("Description", .text), ("Class", .text), ("Method", .text),
        ("NumParameters", .integer)]⟩,
    ⟨"TestsToSteps",
      [("Id", .key), ("TestStepId", .integer), ("TestId", .integer), ("ExecutionOrder", .integer),
        ("Status", .integer)]⟩,
    ⟨"TestStepParameters",
      [("Id", .key), ("TestStepId", .integer), ("TestId", .integer), ("Value", .text),
        ("ParamOrder", .text)]⟩,
    ⟨"TestCases",
      [("Id", .key), ("TestGroup", .text), ("TestCaseIdentifier", .text),
        ("TestCaseDescription", .text), ("Status", .integer), ("ExpectedStatus", .integer),
        ("Enabled", .integer)]⟩,
    ⟨"TestGroups", [("Id", .key), ("GroupDescription", .text)]⟩,
    ⟨"GroupsToTestCases",
      [("Id", .key), ("TestGroupId", .integer), ("TestCaseId", .integer)]⟩]

/-- The text of the built-in schema. -/
def builtInText : String := String.join (builtInTables.map TableDesign.definition)

end Conformance
