import Conformance.CommandLine.Args
import Conformance.CommandLine.Switch

set_option autoImplicit false

/-!
# Reading a command line

Words are read from left to right, and reading stops at the first that cannot be accepted.  A
switch and its value may share a word, as in `--output=x` or `-ox`; then the value is checked at
once.  If the value is a word of its own, it is checked when the next switch comes or the line
ends.  A word that begins with a hyphen and has more than that is never the value of the switch
before it.  That an argument is missing is noticed last.
-/

namespace Conformance.CommandLine

/-- Why a command line does not lead to a run. -/
inductive Stop where
  /-- A word that is no switch and no value of one. -/
  | unknownArgument
  /-- A switch whose value is missing or not accepted. -/
  | invalidValue
  /-- A switch that may be given once is given again. -/
  | conflict
  /-- A value for a flag. -/
  | tooManyValues
  /-- The workbook is not named. -/
  | missingInput
  /-- The usage text is asked for. -/
  | help
  /-- The version is asked for. -/
  | version
  deriving DecidableEq, Repr

/-- The arguments that have been accepted so far. -/
structure Draft where
  input : Option String := none
  output : Option String := none
  schema : Option String := none
  layout : Option String := none
  overviewSheet : Option String := none
  categorySheets : List String := []
  onDuplicate : Option DuplicatePolicy := none
  header : Bool := false
  quiet : Bool := false
  verbose : Nat := 0
  deriving DecidableEq, Repr, Inhabited

/-- The count at which asking for more detail has no further effect. -/
def verboseLimit : Nat := 255

/-- A path, which is never empty. -/
def readPath (value : String) : Except Stop String :=
  if value = "" then .error .invalidValue else .ok value

/-- The policy of a name. -/
def readPolicy (value : String) : Except Stop DuplicatePolicy :=
  match DuplicatePolicy.ofName? value with
  | some policy => .ok policy
  | none => .error .invalidValue

/-- Fills a place that may be filled once. -/
def fill {α : Type} (place : Option α) (value : Except Stop α) : Except Stop (Option α) :=
  if place.isSome then .error .conflict else value.map some

/-- Raises a flag that may be raised once. -/
def raise (raised : Bool) : Except Stop Bool :=
  if raised then .error .conflict else .ok true

namespace Draft

/-- Accepts a switch with its value. -/
def give (draft : Draft) (switch : ValueSwitch) (value : String) : Except Stop Draft :=
  match switch with
  | .input => (fill draft.input (readPath value)).map fun input => { draft with input }
  | .output => (fill draft.output (readPath value)).map fun output => { draft with output }
  | .schema => (fill draft.schema (readPath value)).map fun schema => { draft with schema }
  | .layout => (fill draft.layout (readPath value)).map fun layout => { draft with layout }
  | .overviewSheet =>
    (fill draft.overviewSheet (.ok value)).map fun overviewSheet => { draft with overviewSheet }
  | .categorySheet => .ok { draft with categorySheets := draft.categorySheets ++ [value] }
  | .onDuplicate =>
    (fill draft.onDuplicate (readPolicy value)).map fun onDuplicate => { draft with onDuplicate }

/-- Accepts a flag. -/
def set (draft : Draft) : Flag → Except Stop Draft
  | .header => (raise draft.header).map fun header => { draft with header }
  | .quiet => (raise draft.quiet).map fun quiet => { draft with quiet }
  | .verbose => .ok { draft with verbose := min verboseLimit (draft.verbose + 1) }
  | .help => .error .help
  | .version => .error .version

/-- The arguments, once the line has ended. -/
def args (draft : Draft) : Except Stop Args :=
  match draft.input with
  | none => .error .missingInput
  | some input => .ok {
      input
      output := draft.output
      schema := draft.schema
      layout := draft.layout
      overviewSheet := draft.overviewSheet
      categorySheets := draft.categorySheets
      onDuplicate := draft.onDuplicate
      header := draft.header
      quiet := draft.quiet
      verbose := draft.verbose }

end Draft

/-- A switch whose value is a word of its own, with that word once it has been read. -/
structure Pending where
  switch : ValueSwitch
  value : Option String
  deriving DecidableEq, Repr

/-- A point in a command line: what has been accepted, and what is still to be checked. -/
structure State where
  draft : Draft := {}
  pending : Option Pending := none
  deriving DecidableEq, Repr, Inhabited

namespace State

/-- Checks what is still to be checked. -/
def settle (s : State) : Except Stop Draft :=
  match s.pending with
  | none => .ok s.draft
  | some ⟨_, none⟩ => .error .invalidValue
  | some ⟨switch, some value⟩ => s.draft.give switch value

/-- A switch whose value is in the same word. -/
def give (s : State) (switch : ValueSwitch) (value : String) : Except Stop State := do
  let draft ← s.settle
  let draft ← draft.give switch value
  return { draft }

/-- A switch whose value is to come. -/
def await (s : State) (switch : ValueSwitch) : Except Stop State := do
  let draft ← s.settle
  return { draft, pending := some ⟨switch, none⟩ }

/-- A flag. -/
def flag (s : State) (flag : Flag) : Except Stop State := do
  let draft ← s.settle
  let draft ← draft.set flag
  return { draft }

/-- A word after two hyphens: a long name, with a value behind the first equals sign. -/
def long (s : State) (word : List Char) : Except Stop State :=
  let name := word.takeWhile (· != '=')
  let value := (word.dropWhile (· != '=')).drop 1
  let hasValue := word.contains '='
  match Switch.ofLong? (String.ofList name) with
  | none => .error .unknownArgument
  | some (.flag flag) => if hasValue then .error .tooManyValues else s.flag flag
  | some (.value switch) =>
    if hasValue then s.give switch (String.ofList value) else s.await switch

/-- A word after one hyphen: short names of flags, up to a switch that takes the rest of the word
for its value.  An equals sign before the value does not belong to it. -/
def short (s : State) : List Char → Except Stop State
  | [] => .ok s
  | c :: rest =>
    match Switch.ofShort? c with
    | none => .error .unknownArgument
    | some (.flag flag) => do
      let s ← s.flag flag
      s.short rest
    | some (.value switch) =>
      match rest with
      | [] => s.await switch
      | '=' :: value => s.give switch (String.ofList value)
      | value => s.give switch (String.ofList value)

/-- A word that begins with no name: the value that is awaited, if one is. -/
def plain (s : State) (word : String) : Except Stop State :=
  match s.pending with
  | some ⟨switch, none⟩ => .ok { s with pending := some ⟨switch, some word⟩ }
  | _ => .error .unknownArgument

/-- Any word but two hyphens alone. -/
def word (s : State) (word : String) : Except Stop State :=
  match word.toList with
  | '-' :: '-' :: name => s.long name
  | ['-'] => s.plain word
  | '-' :: names => s.short names
  | _ => s.plain word

/-- Reads words up to the end of the line.  Nothing may follow two hyphens alone. -/
def words : State → List String → Except Stop Draft
  | s, [] => s.settle
  | s, w :: ws =>
    if w = "--" then
      if ws.isEmpty then s.settle else .error .unknownArgument
    else do
      let s ← s.word w
      words s ws

end State

/-- The arguments that the words of a command line give. -/
def read (words : List String) : Except Stop Args := do
  let draft ← State.words {} words
  draft.args

end Conformance.CommandLine
