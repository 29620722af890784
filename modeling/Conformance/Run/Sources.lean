import Conformance.CommandLine.Args
import Conformance.Conversion
import Conformance.Options.Document
import Conformance.Run.Error

set_option autoImplicit false

/-!
# What a run reads

The schema, the options and the workbook, in this order.  Each failure names the file concerned.
-/

namespace Conformance

/-- How the files of a run are read: as text, or as a workbook. -/
structure Sources where
  text? : String → Option String
  workbook? : String → Option Workbook

namespace Sources

/-- The schema in a file, or the built-in schema. -/
def schema (sources : Sources) : Option String → Except RunError Schema
  | none => .ok .builtIn
  | some path =>
    match sources.text? path with
    | none => .error (.unreadableSchema path)
    | some text => (Schema.ofText text).mapError (.invalidSchema path)

/-- The settings in a layout file; none without a file. -/
def settings (sources : Sources) : Option String → Except RunError Settings
  | none => .ok {}
  | some path =>
    match sources.text? path with
    | none => .error (.unreadableLayout path)
    | some text =>
      match Settings.ofText? text with
      | none => .error (.invalidLayout path)
      | some settings => .ok settings

/-- The options of a run: what the command line leaves open is taken from the layout file. -/
def options (sources : Sources) (args : Args) : Except RunError Options :=
  (sources.settings args.layout).map fun settings => (args.settings.orElse settings).options

/-- The workbook in a file, which has at least one sheet. -/
def workbook (sources : Sources) (path : String) : Except RunError Workbook :=
  match sources.workbook? path with
  | none => .error (.unreadableWorkbook path)
  | some wb => if wb.sheets.isEmpty then .error (.noSheets path) else .ok wb

end Sources

end Conformance
