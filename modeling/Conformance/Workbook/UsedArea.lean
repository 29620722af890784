import Conformance.Number.Rounding
import Conformance.Workbook

set_option autoImplicit false

/-!
# Used areas

A spreadsheet file stores of each sheet only the rectangle that is in use.  Rows and columns
before it are filled up with empty cells, so that every value keeps its row and its column.
-/

namespace Conformance

/-- An error that stands in a cell in place of a value. -/
inductive CellError where
  | divisionByZero
  | notAvailable
  | name
  | null
  | number
  | reference
  | value
  | gettingData
  deriving DecidableEq, Repr

namespace CellError

/-- The word for the error. -/
def word : CellError → String
  | .divisionByZero => "Div0"
  | .notAvailable => "NA"
  | .name => "Name"
  | .null => "Null"
  | .number => "Num"
  | .reference => "Ref"
  | .value => "Value"
  | .gettingData => "GettingData"

/-- All errors. -/
def all : List CellError :=
  [.divisionByZero, .notAvailable, .name, .null, .number, .reference, .value, .gettingData]

/-- The error of a word. -/
def ofWord? (word : String) : Option CellError := all.find? fun error => error.word == word

end CellError

/-- A value as a spreadsheet file stores it. -/
inductive StoredValue where
  | empty
  | text (value : String)
  | float (value : Binary64)
  | integer (value : Int)
  | bool (value : Bool)
  /-- A date or a time as a serial number. -/
  | dateTime (serial : Binary64)
  /-- A date or a time as a text. -/
  | isoDateTime (value : String)
  /-- A span of time as a text. -/
  | isoDuration (value : String)
  | error (error : CellError)
  deriving DecidableEq, Repr, Inhabited

namespace StoredValue

/-- The cell of a stored value. -/
def cell : StoredValue → Cell
  | .empty => .empty
  | .text s | .isoDateTime s | .isoDuration s => .text s
  | .float x | .dateTime x => .number x
  | .integer n => .number (Binary64.ofInt n)
  | .bool b => .bool b
  | .error e => .text s!"#{e.word}"

end StoredValue

/-- The rectangle of a sheet that is in use. -/
structure UsedArea where
  /-- The rows before the rectangle. -/
  firstRow : Nat
  /-- The columns before the rectangle. -/
  firstColumn : Nat
  rows : List (List StoredValue)
  deriving DecidableEq, Repr, Inhabited

namespace UsedArea

/-- A row of the rectangle, at its place in the sheet. -/
def placedRow (area : UsedArea) (row : List StoredValue) : Row :=
  List.replicate area.firstColumn .empty ++ row.map StoredValue.cell

/-- The rows of the sheet. -/
def sheetRows (area : UsedArea) : List Row :=
  List.replicate area.firstRow [] ++ area.rows.map area.placedRow

end UsedArea

namespace Sheet

/-- The sheet with a used area; without one the sheet has no rows. -/
def ofUsedArea (name : String) : Option UsedArea → Sheet
  | some area => ⟨name, area.sheetRows⟩
  | none => ⟨name, []⟩

end Sheet

end Conformance
