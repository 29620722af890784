import Conformance.CommandLine.Answer
import Conformance.Run
import Conformance.Workbook.Document

set_option autoImplicit false

/-!
# The program

Reads the command line and the files it names, runs, and leaves the script, the diagnostics and
the exit status.  A workbook is a document of cells.
-/

namespace Conformance

/-- The text of a file, if it can be read. -/
def fileText? (path : String) : IO (Option String) := do
  try
    return some (← IO.FS.readFile path)
  catch _ => return none

/-- The texts of the files that the arguments name. -/
def namedTexts (args : Args) : IO (List (String × String)) := do
  let paths := args.schema.toList ++ args.layout.toList ++ [args.input]
  let texts ← paths.mapM fun path => do
    return (← fileText? path).map fun text => (path, text)
  return texts.filterMap id

/-- How a run reads files whose texts are known. -/
def Sources.ofTexts (texts : List (String × String)) : Sources where
  text? path := texts.lookup path
  workbook? path := (texts.lookup path).bind Workbook.ofText?

/-- Writes a file through a temporary file beside it, and tells whether it succeeded. -/
def replaceFile (path text : String) : IO Bool := do
  let temporary := path ++ ".new"
  try
    IO.FS.writeFile temporary text
    IO.FS.rename temporary path
    return true
  catch _ =>
    try IO.FS.removeFile temporary catch _ => pure ()
    return false

/-- Writes a text to the standard output, and tells whether it succeeded. -/
def printText (text : String) : IO Bool := do
  try
    let stdout ← IO.getStdout
    stdout.putStr text
    stdout.flush
    return true
  catch _ => return false

/-- Writes the script to the file or to the standard output. -/
def deliver (script : String) : Option String → IO (Option RunError)
  | none => do
    return if ← printText script then none else some .undelivered
  | some path => do
    return if ← replaceFile path script then none else some (.unwritable path)

/-- Runs with the arguments. -/
def runWith (args : Args) : IO UInt32 := do
  let report := args.report (Sources.ofTexts (← namedTexts args))
  for issue in report.issues do
    IO.eprintln issue.line
  let failure ← match report.script with
    | .error failure => pure (some failure)
    | .ok script => deliver script args.output
  match failure with
  | none => return successStatus.toUInt32
  | some failure =>
    IO.eprintln failure.line
    return failure.status.toUInt32

/-- Runs with the words of the command line. -/
def runWords (words : List String) : IO UInt32 := do
  match CommandLine.read words with
  | .ok args => runWith args
  | .error stop =>
    -- The status of a request is the same whether or not its text is taken.
    if stop.isRequest then discard (printText stop.text) else IO.eprint stop.text
    return stop.status.toUInt32

end Conformance

/-- The program. -/
def main (words : List String) : IO UInt32 := Conformance.runWords words
