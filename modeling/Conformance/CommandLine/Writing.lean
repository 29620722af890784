import Conformance.CommandLine.Reading

set_option autoImplicit false

/-!
# Writing a command line

Arguments written out in long names, each switch with its value in one word.
-/

namespace Conformance.CommandLine

/-- One word of a command line: a flag, or a switch with its value. -/
inductive Mention where
  | value (switch : ValueSwitch) (text : String)
  | flag (flag : Flag)
  deriving DecidableEq, Repr

namespace Mention

/-- The word. -/
def word : Mention → String
  | .value switch text => s!"--{(Switch.value switch).long}={text}"
  | .flag f => s!"--{(Switch.flag f).long}"

end Mention

end Conformance.CommandLine

namespace Conformance.Args

open CommandLine

/-- What the words of a command line say for these arguments to be read from it. -/
def mentions (args : Args) : List Mention :=
  let optional (switch : ValueSwitch) (text : Option String) : List Mention :=
    (text.map (.value switch)).toList
  let raised (f : Flag) (given : Bool) : List Mention := if given then [.flag f] else []
  .value .input args.input :: optional .output args.output ++ optional .schema args.schema ++
    optional .layout args.layout ++ optional .overviewSheet args.overviewSheet ++
    args.categorySheets.map (.value .categorySheet) ++
    optional .onDuplicate (args.onDuplicate.map DuplicatePolicy.name) ++
    raised .header args.header ++ raised .quiet args.quiet ++
    List.replicate args.verbose (.flag .verbose)

end Conformance.Args
