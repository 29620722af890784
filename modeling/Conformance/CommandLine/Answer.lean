import Conformance.CommandLine.Reading
import Conformance.Run.Error

set_option autoImplicit false

/-!
# Answers to a command line that starts no run

The usage text and the version are answers to a request; everything else is an error, which is
reported together with how the program is used.
-/

namespace Conformance.CommandLine

/-- How a switch is written. -/
def Switch.usage (switch : Switch) : String :=
  let name := match switch.short? with
    | some c => s!"  -{c}, --{switch.long}"
    | none => s!"      --{switch.long}"
  match switch with
  | .value _ => name ++ " <VALUE>\n"
  | .flag _ => name ++ "\n"

/-- How the program is used. -/
def usage : String :=
  s!"Usage: {programName} [OPTIONS] --input <VALUE>\n\nOptions:\n" ++
    String.join (Switch.all.map Switch.usage)

/-- The version of the program. -/
def versionText : String := s!"{programName} {programVersion}\n"

namespace Stop

/-- The command line asks for a text and not for a run. -/
def isRequest : Stop → Bool
  | .help | .version => true
  | _ => false

/-- What is wrong with the command line. -/
def complaint : Stop → String
  | .unknownArgument => "an argument is not known"
  | .invalidValue => "a value is missing or not accepted"
  | .conflict => "an argument is given more than once"
  | .tooManyValues => "a flag takes no value"
  | .missingInput => "the workbook is not named"
  | .help | .version => ""

/-- The answer. -/
def text : Stop → String
  | .help => usage
  | .version => versionText
  | stop => s!"error: {stop.complaint}\n\n{usage}"

/-- The exit status. -/
def status (stop : Stop) : Nat := if stop.isRequest then successStatus else usageStatus

end Stop

end Conformance.CommandLine
