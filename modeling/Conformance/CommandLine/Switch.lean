set_option autoImplicit false

/-!
# Switches

The names a command line may use.  A switch either takes a value or is a plain flag; each has a
long name, and some have a short name of one character.
-/

namespace Conformance.CommandLine

/-- A switch that takes a value. -/
inductive ValueSwitch where
  | input
  | output
  | schema
  | layout
  | overviewSheet
  | categorySheet
  | onDuplicate
  deriving DecidableEq, Repr

/-- A switch that takes no value. -/
inductive Flag where
  | header
  | quiet
  | verbose
  | help
  | version
  deriving DecidableEq, Repr

/-- A switch of either kind. -/
inductive Switch where
  | value (switch : ValueSwitch)
  | flag (flag : Flag)
  deriving DecidableEq, Repr

namespace Switch

/-- All switches. -/
def all : List Switch :=
  [.value .input, .value .output, .value .schema, .value .layout, .value .overviewSheet,
   .value .categorySheet, .value .onDuplicate, .flag .header, .flag .quiet, .flag .verbose,
   .flag .help, .flag .version]

/-- The long name. -/
def long : Switch → String
  | .value .input => "input"
  | .value .output => "output"
  | .value .schema => "schema"
  | .value .layout => "layout"
  | .value .overviewSheet => "overview-sheet"
  | .value .categorySheet => "category-sheet"
  | .value .onDuplicate => "on-duplicate"
  | .flag .header => "header"
  | .flag .quiet => "quiet"
  | .flag .verbose => "verbose"
  | .flag .help => "help"
  | .flag .version => "version"

/-- The short name, if there is one. -/
def short? : Switch → Option Char
  | .value .input => some 'i'
  | .value .output => some 'o'
  | .value .schema => some 's'
  | .flag .quiet => some 'q'
  | .flag .verbose => some 'v'
  | .flag .help => some 'h'
  | .flag .version => some 'V'
  | _ => none

/-- The switch of a long name. -/
def ofLong? (name : String) : Option Switch := all.find? fun switch => switch.long == name

/-- The switch of a short name. -/
def ofShort? (c : Char) : Option Switch := all.find? fun switch => switch.short? == some c

theorem ofLong?_long (switch : Switch) : ofLong? switch.long = some switch := by
  rcases switch with switch | flag
  · cases switch <;> decide
  · cases flag <;> decide

end Switch

end Conformance.CommandLine
