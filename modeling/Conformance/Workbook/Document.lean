import Conformance.Json.Value
import Conformance.Workbook

set_option autoImplicit false

/-!
# Workbooks in documents

A workbook can be kept as a JSON document: the list of its sheets, each with its name and its rows
of cells.  A cell is null, a string, a number or a truth value.
-/

namespace Conformance

namespace Cell

/-- Reads a cell. -/
def ofJson? : Json → Option Cell
  | .null => some .empty
  | .string s => s.map .text
  | .number n => some (.number n.value)
  | .bool b => some (.bool b)
  | _ => none

end Cell

namespace Row

/-- Reads a row of cells. -/
def ofJson? : Json → Option Row
  | .array cells => cells.mapM Cell.ofJson?
  | _ => none

end Row

namespace Sheet

/-- Reads a sheet. -/
def ofJson? : Json → Option Sheet
  | .object [(some "name", .string (some name)), (some "rows", .array rows)] =>
    (rows.mapM Row.ofJson?).map fun rows => { name, rows }
  | _ => none

end Sheet

namespace Workbook

/-- Reads the list of sheets. -/
def ofJson? : Json → Option Workbook
  | .array sheets => (sheets.mapM Sheet.ofJson?).map fun sheets => { sheets }
  | _ => none

/-- The workbook that a document holds. -/
def ofText? (text : String) : Option Workbook := (Json.ofText? text).bind ofJson?

end Workbook

end Conformance
