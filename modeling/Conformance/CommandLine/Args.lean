import Conformance.Options

set_option autoImplicit false

/-!
# Arguments

What a command line says once it has been read: the workbook to convert, where the script goes,
which schema and which sheets to use, and how much to report.
-/

namespace Conformance

/-- The arguments of a run. -/
structure Args where
  /-- The workbook to convert. -/
  input : String
  /-- The file the script is written to; the standard output if there is none. -/
  output : Option String := none
  /-- The file with the schema; the built-in schema if there is none. -/
  schema : Option String := none
  /-- The file with settings for the conversion. -/
  layout : Option String := none
  overviewSheet : Option String := none
  /-- The category sheets in scan order. -/
  categorySheets : List String := []
  onDuplicate : Option DuplicatePolicy := none
  /-- The script begins with a header. -/
  header : Bool := false
  /-- Issues are not reported. -/
  quiet : Bool := false
  /-- How often more detail was asked for. -/
  verbose : Nat := 0
  deriving DecidableEq, Repr, Inhabited

namespace Args

/-- The settings for the conversion.  Sheets on the command line always go by name. -/
def settings (args : Args) : Settings where
  overview := args.overviewSheet.map .name
  categories :=
    if args.categorySheets.isEmpty then none
    else some (.listed (args.categorySheets.map .name))
  onDuplicate := args.onDuplicate

end Args

end Conformance
