import Conformance.Number.Numeral
import Conformance.Text.Items

set_option autoImplicit false

/-!
# Cells

A cell of a sheet is empty or holds a text, a number or a truth value.  The conversion reads a
cell only through its shown text, trimmed; a column beyond the end of a row reads as empty.
-/

namespace Conformance

/-- A cell of a sheet. -/
inductive Cell where
  | empty
  | text (value : String)
  | number (value : Binary64)
  | bool (value : Bool)
  deriving DecidableEq, Repr, Inhabited

/-- The cells of one row, from the first column. -/
abbrev Row := List Cell

namespace Cell

/-- The text a cell shows: whole numbers without a fraction, truth values in capitals. -/
def shown : Cell → String
  | .empty => ""
  | .text s => s
  | .number x => x.numeral
  | .bool b => if b then "TRUE" else "FALSE"

/-- A cell is blank when it is empty or its text is all white space. -/
def isBlank : Cell → Bool
  | .empty => true
  | .text s => Text.trim s == ""
  | .number _ => false
  | .bool _ => false

end Cell

namespace Row

/-- The cell of a column; a missing cell is empty. -/
def cell (row : Row) (column : Nat) : Cell := row[column]?.getD .empty

/-- The trimmed text of a column. -/
def field (row : Row) (column : Nat) : String := Text.trim (row.cell column).shown

/-- Some cell of the row is not blank. -/
def hasContent (row : Row) : Bool := row.any fun cell => !cell.isBlank

/-- A column beyond the end of the row reads as the empty text. -/
theorem field_eq_empty_of_length_le {row : Row} {column : Nat} (h : row.length ≤ column) :
    row.field column = "" := by
  simp [field, cell, List.getElem?_eq_none h, Cell.shown, Text.trim]

end Row

end Conformance
