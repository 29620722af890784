import Conformance.Files.Replacement
import Conformance.Run.Sources

set_option autoImplicit false

/-!
# Runs

A run reads the schema, the options and the workbook, converts the workbook, reports the issues,
makes the script and writes it, to a file or to the standard output.  It stops at the first
failure; then nothing is written, and no file has changed.
-/

namespace Conformance

/-- What a run has to say before its script is written: the issues it reports, and the script or
the failure. -/
structure Report where
  issues : List Issue := []
  script : Except RunError String

/-- How a run ended. -/
structure Outcome where
  /-- The issues that were reported. -/
  issues : List Issue
  failure : Option RunError
  stdout : String
  files : FileSystem
  deriving DecidableEq, Repr

namespace RunError

/-- The failure of a conversion.  Sheets that cannot be found are a matter of the layout and not
of the workbook. -/
def ofConvert (path : String) : ConvertError → RunError
  | .layout cause => .unresolvedSheets path cause
  | cause => .unconvertible cause

/-- The line that reports the failure. -/
def line (error : RunError) : String := s!"{programName}: error: {error.message}"

end RunError

namespace Args

/-- Everything a run does before it writes its script. -/
def report (args : Args) (sources : Sources) : Report :=
  let read : Except RunError (Schema × Conversion) := do
    let schema ← sources.schema args.schema
    let options ← sources.options args
    let wb ← sources.workbook args.input
    let conversion ← (convert wb options).mapError (.ofConvert args.input)
    return (schema, conversion)
  match read with
  | .error failure => { script := .error failure }
  | .ok (schema, conversion) =>
    { issues := if args.quiet then [] else conversion.issues
      script := (conversion.dataset.script schema args.header).mapError .unexportable }

end Args

namespace FileSystem

/-- How the files are read by a run. -/
def sources (fs : FileSystem) : Sources := ⟨fs.readText?, fs.readWorkbook?⟩

/-- Writes a script to a file: the files afterwards, and the failure if it did not succeed. -/
def store (fs : FileSystem) (path script : String) (fault : Option Fault) :
    FileSystem × Option RunError :=
  let replacement := fs.replace path script fault
  (replacement.result, if replacement.succeeded then none else some (.unwritable path))

/-- The files once a script has been written to a file. -/
def write (fs : FileSystem) (path script : String) (fault : Option Fault) :
    Except RunError FileSystem :=
  match fs.store path script fault with
  | (files, none) => .ok files
  | (_, some failure) => .error failure

/-- Runs with the files as they are.  A fault may befall the writing of a file; the standard output
takes every text. -/
def run (fs : FileSystem) (args : Args) (fault : Option Fault) : Outcome :=
  let report := args.report fs.sources
  match report.script, args.output with
  | .error failure, _ => ⟨report.issues, some failure, "", fs⟩
  | .ok script, none => ⟨report.issues, none, script, fs⟩
  | .ok script, some path =>
    let (files, failure?) := fs.store path script fault
    ⟨report.issues, failure?, "", files⟩

end FileSystem

namespace Outcome

/-- The exit status. -/
def status (outcome : Outcome) : Nat :=
  match outcome.failure with
  | some failure => failure.status
  | none => successStatus

/-- The lines of diagnostics: one for each issue, and one for the failure. -/
def diagnostics (outcome : Outcome) : List String :=
  outcome.issues.map Issue.line ++ (outcome.failure.map RunError.line).toList

end Outcome

end Conformance
