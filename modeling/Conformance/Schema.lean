import Conformance.Schema.BuiltIn
import Conformance.Sql.Definition

set_option autoImplicit false

/-!
# Schemas

A schema is a text that creates the tables of a script.  A text is accepted when it is well formed
and, for each table that receives rows, the first table it creates under that name declares every
column the rows fill; names agree up to the case of ASCII letters.  The text itself is kept as it
is.
-/

namespace Conformance

/-- A checked text of table definitions. -/
structure Schema where
  text : String
  /-- The table of test cases declares a column for the container. -/
  hasCaseContainer : Bool
  deriving DecidableEq, Repr

/-- Why a text is no schema. -/
inductive SchemaError where
  | malformed (cause : Sql.Malformation)
  | missingTable (table : String)
  | missingColumn (table column : String)
  deriving DecidableEq, Repr

namespace SchemaError

/-- The text shown for the error. -/
def message : SchemaError → String
  | .malformed cause => s!"failed to parse schema SQL: {cause.message}"
  | .missingTable table => s!"schema does not create table \"{table}\""
  | .missingColumn table column => s!"schema table \"{table}\" has no column \"{column}\""

end SchemaError

namespace Schema

open Sql (TableDefinition)

/-- The built-in schema. -/
def builtIn : Schema := ⟨builtInText, false⟩

/-- The first table of a name. -/
def definition? (tables : List TableDefinition) (name : String) : Option TableDefinition :=
  tables.find? fun table => Text.sameName table.name name

/-- What a table that receives rows is missing among the created tables. -/
def shortfall? (tables : List TableDefinition) (required : Table) : Option SchemaError :=
  match definition? tables required.name with
  | none => some (.missingTable required.name)
  | some table =>
    (required.columns.find? fun column => !table.hasColumn column).map
      (.missingColumn required.name)

/-- The created tables give the container of a test case a column of its own. -/
def declaresContainer (tables : List TableDefinition) : Bool :=
  match definition? tables (Table.cases false).name with
  | some table => table.hasColumn Table.containerColumn
  | none => false

/-- Checks created tables: fails at the first table that falls short. -/
def check (text : String) (tables : List TableDefinition) : Except SchemaError Schema :=
  match Table.populated.findSome? (shortfall? tables) with
  | some error => .error error
  | none => .ok ⟨text, declaresContainer tables⟩

/-- The schema a text is. -/
def ofText (text : String) : Except SchemaError Schema :=
  match Sql.createdTables text with
  | .error cause => .error (.malformed cause)
  | .ok tables => check text tables

/-- The table of test cases, with the columns its rows fill under this schema. -/
def casesTable (schema : Schema) : Table := Table.cases schema.hasCaseContainer

end Schema

end Conformance
