import Conformance.Sql.Grammar.DataType

set_option autoImplicit false

/-!
# Routines

The parameters of functions and procedures, and the blocks of statements they are made of.  A
statement of a block ends with a semicolon; where there is none, a block holds no statements.
-/

namespace Conformance.Sql.Grammar

open Conformance.Sql.Parser

section

variable (level : Level)

/-- A block without statements, up to a word that ends it or to the end of the text.  Anything else
is a statement, and a statement without a semicolon after it cannot be part of a block. -/
def emptyBlock (ends : List Keyword) : Parser Unit := do
  unless ← atEnd do
    unless ← ahead ends do
      void level.statement
      unexpected

/-- The statements of a branch or a routine, perhaps between `BEGIN` and `END`. -/
def block (ends : List Keyword) : Parser Unit := do
  if ← keyword .BEGIN then
    emptyBlock level ends
    need .END
  else emptyBlock level ends

/-- A parameter of a procedure. -/
def procedureParameter : Parser Unit := do
  skip [.IN, .OUT, .INOUT]
  void identifier
  void (dataType level)
  if ← token equalSign then void (expression level .normal)

/-- The parameters of a procedure, if there are any.  The list may end with a comma. -/
def procedureParameters : Parser Unit := do
  if ← token .leftParen then
    unless ← token .rightParen do
      whileTrue do
        match ← peek? with
        | some (.word _ _) => procedureParameter level
        | _ => pure ()
        let more ← token .comma
        if ← token .rightParen then return false
        else if more then return true
        else unexpected

/-- A parameter in the signature of a routine.  Where two types follow each other the first one is
the name of the parameter, so that it has to end with a word. -/
def signatureParameter : Parser Unit := do
  skip [.IN, .OUT, .INOUT]
  let (_, last) ← withLastToken (dataType level)
  unless ← ahead [.DEFAULT] do
    if (← attempt (dataType level)).isSome then
      unless (last.map Token.isWord).getD false do unexpected
  if ← (do if ← keyword .DEFAULT then return true else token equalSign) then
    void (expression level .normal)

/-- The name of a routine, perhaps with the types it is called with. -/
def signature : Parser Unit := do
  void objectName
  if ← parenthesisAhead then listOrNoneIn (signatureParameter level)

/-- A statement for each of several cases; `CASE` has been read. -/
def caseStatement : Parser Unit := do
  let branchEnds : List Keyword := [.WHEN, .ELSE, .END]
  unless ← ahead [.WHEN] do void (expression level .normal)
  need .WHEN
  whileTrue do
    void (expression level .normal)
    need .THEN
    block level branchEnds
    keyword .WHEN
  clause .ELSE (block level [.END])
  need .END

/-- A statement under conditions; `IF` has been read. -/
def ifStatement : Parser Unit := do
  let branch (ends : List Keyword) : Parser Unit := do
    void (expression level .normal)
    need .THEN
    block level ends
  branch [.ELSE, .ELSEIF, .END]
  whileTrue do
    if ← keyword .ELSEIF then
      branch [.ELSEIF, .ELSE, .END]
      return true
    else return false
  clause .ELSE (block level [.END])
  needAll [.END, .IF]

/-- A statement that is repeated; `WHILE` has been read. -/
def whileStatement : Parser Unit := do
  void (expression level .normal)
  block level [.END]

end

end Conformance.Sql.Grammar
