import Conformance.Audit
import Conformance.Script

set_option autoImplicit false

/-!
# Failures of a run

What can keep a run from writing its script.  A failure names what was attempted and, where one is
known, the cause.  The exit status tells a workbook that cannot be converted from everything else.
-/

namespace Conformance

/-- Why a run fails. -/
inductive RunError where
  | unreadableSchema (path : String)
  | invalidSchema (path : String) (cause : SchemaError)
  | unreadableLayout (path : String)
  | invalidLayout (path : String)
  | unreadableWorkbook (path : String)
  | noSheets (path : String)
  | unresolvedSheets (path : String) (cause : LayoutError)
  | unconvertible (cause : ConvertError)
  | unexportable (cause : ExportError)
  | unwritable (path : String)
  /-- The standard output takes no text. -/
  | undelivered
  deriving DecidableEq, Repr

/-- The exit status of a run that succeeds. -/
def successStatus : Nat := 0

/-- The exit status for a command line that is not understood. -/
def usageStatus : Nat := 2

namespace RunError

/-- What was attempted. -/
def context : RunError → String
  | .unreadableSchema path => s!"Failed to read schema file: {path}"
  | .invalidSchema path _ => s!"Invalid schema file: {path}"
  | .unreadableLayout path => s!"Failed to read layout file: {path}"
  | .invalidLayout path => s!"Invalid layout file: {path}"
  | .unreadableWorkbook path => s!"Failed to open workbook: {path}"
  | .noSheets path => s!"Workbook contains no sheets: {path}"
  | .unresolvedSheets path _ => s!"Failed to resolve sheets in {path}"
  | .unconvertible cause => cause.message
  | .unexportable cause => cause.message
  | .unwritable path => s!"Failed to write to {path}"
  | .undelivered => "Failed to write to stdout"

/-- The cause behind it. -/
def cause? : RunError → Option String
  | .invalidSchema _ cause => some cause.message
  | .unresolvedSheets _ cause => some cause.message
  | .unreadableSchema _ | .unreadableLayout _ => some "the file cannot be read as text"
  | .invalidLayout _ => some "the text is no layout document"
  | .unreadableWorkbook _ => some "the file cannot be read as a workbook"
  | .unwritable _ => some "the file cannot be replaced"
  | .undelivered => some "the standard output takes no text"
  | .noSheets _ | .unconvertible _ | .unexportable _ => none

/-- The text shown for the failure. -/
def message (error : RunError) : String :=
  match error.cause? with
  | some cause => s!"{error.context}: {cause}"
  | none => error.context

/-- The exit status: one for a workbook that cannot be converted or written out, and another for
whatever else fails. -/
def status : RunError → Nat
  | .unconvertible _ | .unexportable _ => 1
  | _ => 66

end RunError

end Conformance
