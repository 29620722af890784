import Conformance.Cell
import Conformance.Text.Fold

set_option autoImplicit false

/-!
# Workbooks

A workbook is a list of named sheets, and a sheet is a list of rows of which the first is a
header.  Rows are numbered from one, as a spreadsheet shows them, so the data rows of a sheet
begin with row two.
-/

namespace Conformance

/-- Where a record stands in the workbook. -/
structure Location where
  sheet : String
  row : Nat
  deriving DecidableEq, Repr, Inhabited

namespace Location

/-- The location as messages name it. -/
def text (l : Location) : String := s!"sheet '{l.sheet}' row {l.row}"

end Location

/-- A row of a sheet together with its place in the workbook. -/
structure SheetRow where
  location : Location
  cells : Row
  deriving DecidableEq, Repr, Inhabited

/-- A named grid of cells; the first row is the header. -/
structure Sheet where
  name : String
  rows : List Row := []
  deriving DecidableEq, Repr, Inhabited

namespace Sheet

/-- The sheet with one more row at its end. -/
def addRow (sheet : Sheet) (row : Row) : Sheet := { sheet with rows := sheet.rows ++ [row] }

/-- The rows below the header, each with its location. -/
def dataRows (sheet : Sheet) : List SheetRow :=
  ((sheet.rows.zipIdx 1).drop 1).map fun (row, number) => ⟨⟨sheet.name, number⟩, row⟩

/-- There is one data row for each row after the first. -/
theorem length_dataRows (sheet : Sheet) : sheet.dataRows.length = sheet.rows.length - 1 := by
  simp [dataRows]

end Sheet

/-- A reference to a sheet by its zero-based position or by its name. -/
inductive SheetRef where
  | index (position : Nat)
  | name (text : String)
  deriving DecidableEq, Repr, Inhabited

namespace SheetRef

/-- The reference as messages name it. -/
def text : SheetRef → String
  | .index i => s!"#{i}"
  | .name n => s!"'{n}'"

end SheetRef

/-- A sheet together with its position in the workbook. -/
structure PlacedSheet where
  index : Nat
  sheet : Sheet
  deriving DecidableEq, Repr, Inhabited

/-- An ordered collection of sheets. -/
structure Workbook where
  sheets : List Sheet := []
  deriving DecidableEq, Repr, Inhabited

namespace Workbook

/-- The names of the sheets in order. -/
def sheetNames (wb : Workbook) : List String := wb.sheets.map Sheet.name

/-- The workbook with one more sheet at its end. -/
def add (wb : Workbook) (sheet : Sheet) : Workbook := { wb with sheets := wb.sheets ++ [sheet] }

/-- The sheets with their positions. -/
def placed (wb : Workbook) : List PlacedSheet :=
  wb.sheets.zipIdx.map fun (sheet, i) => ⟨i, sheet⟩

/-- The position of a sheet by name.  The first sheet with exactly this name is taken; only if
there is none, the first sheet whose name agrees up to the case of ASCII letters. -/
def position? (wb : Workbook) (name : String) : Option Nat :=
  (wb.sheets.findIdx? fun sheet => sheet.name == name).or
    (wb.sheets.findIdx? fun sheet => Text.sameName sheet.name name)

/-- The position a reference points to, if any. -/
def locate? (wb : Workbook) : SheetRef → Option Nat
  | .index i => if i < wb.sheets.length then some i else none
  | .name n => wb.position? n

/-- The sheet a reference points to, if any. -/
def find? (wb : Workbook) (ref : SheetRef) : Option PlacedSheet :=
  (wb.locate? ref).bind fun i => wb.sheets[i]?.map fun sheet => ⟨i, sheet⟩

end Workbook

end Conformance
