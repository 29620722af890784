import Conformance.Sql.Grammar.Call

set_option autoImplicit false

/-!
# Prepared statements, cursors and messages

Statements that run something under a name, step through its rows, or raise a message.
-/

namespace Conformance.Sql.Grammar

open Conformance.Sql.Parser

/-- How many rows to step over. -/
def stepCount : Parser Unit := do
  unless ← keyword .ALL do numberValue

/-- A step of a cursor; `FETCH` has been read. -/
def fetchStep : Parser Unit := do
  match ← oneOf [.NEXT, .PRIOR, .FIRST, .LAST, .ABSOLUTE, .RELATIVE, .FORWARD, .BACKWARD] with
  | some .ABSOLUTE | some .RELATIVE => numberValue
  | some .FORWARD | some .BACKWARD | none => stepCount
  | some _ => pure ()
  let _ ← needOneOf [.FROM, .IN]
  void identifier
  clause .INTO objectName

section

variable (level : Level)

/-- A function that is called; `CALL` has been read. -/
def callBody : Parser Unit := do
  void objectName
  if ← parenthesisAhead then functionCall level .normal

/-- A statement that is given a name and the types of its parameters; `PREPARE` has been read. -/
def prepareBody : Parser Unit := do
  void identifier
  if ← parenthesisAhead then listIn (dataType level)
  need .AS
  void level.statement

/-- The parameters of a prepared statement, with or without parentheses. -/
def executionParameters : Parser Unit := do
  if ← parenthesisAhead then listOrNoneIn (expression level .normal)
  else
    unless ← atEnd do
      unless ← ahead [.USING, .OUTPUT, .DEFAULT] do expressions level .normal

/-- A prepared statement that is run; `EXECUTE` has been read. -/
def executeBody : Parser Unit := do
  void objectName
  executionParameters level
  clause .INTO (listOf identifier)
  clause .USING (listOf (namedExpression level .normal))

/-- A cursor for the rows of a query; `DECLARE` has been read. -/
def declareBody : Parser Unit := do
  void identifier
  skip [.BINARY]
  skip [.INSENSITIVE, .ASENSITIVE]
  unless ← keyword .SCROLL do skipPhrase [.NO, .SCROLL]
  need .CURSOR
  if ← anyOf [.WITH, .WITHOUT] then need .HOLD
  need .FOR
  level.query .normal

/-- A message that is raised; `RAISE` has been read. -/
def raiseBody : Parser Unit := do
  if ← phrase [.USING, .MESSAGE] then
    expect equalSign
    void (expression level .normal)
  else void (attempt (expression level .normal))

/-- A message that is raised with a severity, a state and arguments; `RAISERROR` has been read. -/
def raiseErrorBody : Parser Unit := do
  parenthesized do
    void (expression level .normal)
    expect .comma
    void (expression level .normal)
    expect .comma
    expressions level .normal
  clause .WITH (listOf (needOneOf [.LOG, .NOWAIT, .SETERROR]))

/-- A condition that is checked; `ASSERT` has been read. -/
def assertBody : Parser Unit := do
  void (expression level .normal)
  clause .AS (expression level .normal)

end

end Conformance.Sql.Grammar
