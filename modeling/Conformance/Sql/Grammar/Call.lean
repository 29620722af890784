import Conformance.Sql.Grammar.DataType

set_option autoImplicit false

/-!
# Function calls

What stands between the parentheses of a call and what may follow them: arguments with and without
names, an order, a filter, the treatment of null, and the window over which a function is computed.
-/

namespace Conformance.Sql.Grammar

open Conformance.Sql.Parser

/-- What may stand for a row: all columns, all columns of a table, or an expression. -/
inductive Item where
  | wildcard
  | expr (shape : Shape)
  deriving DecidableEq, Repr

/-- The rest of a name with points, up to a star; none if there is no star at its end. -/
def qualifiedStar : Parser (Option Item) :=
  iterate (fun (last : Option Item) => do
    match last with
    | some _ => return none
    | none =>
      if ← token .period then
        match ← next? with
        | some (.word _ _) | some (.text _) => return some none
        | some t => if t == star then return some (some .wildcard) else unexpected
        | none => unexpected
      else return none) none

/-- How a function treats null. -/
def optionalNullTreatment : Parser Unit := do
  if ← anyOf [.RESPECT, .IGNORE] then need .NULLS

/-- What a function that builds a document does with null. -/
def optionalDocumentNull : Parser Unit := do
  unless ← phrase [.ABSENT, .ON, .NULL] do skipPhrase [.NULL, .ON, .NULL]

section

variable (level : Level) (mode : Mode)

/-- A wildcard or an expression. -/
def item : Parser Item := do
  match ← peek? with
  | some (.word _ _) | some (.text _) =>
    let item? ← orNothing do
      void next?
      qualifiedStar
    match item? with
    | some item => return item
    | none => return .expr (← expression level mode)
  | some t =>
    if t == star then
      void next?
      return .wildcard
    else return .expr (← expression level mode)
  | none => return .expr (← expression level mode)

/-- An argument of a function, perhaps with its name. -/
def argument : Parser Unit := do
  let named ← attempt do
    void identifier
    unless ← keyword .VALUE do expect (.operator "=>")
    void (item level mode)
  if named.isNone then void (item level mode)

/-- What an aggregate of texts does when it grows too long. -/
def optionalOverflow : Parser Unit := do
  if ← phrase [.ON, .OVERFLOW] then
    unless ← keyword .ERROR do
      need .TRUNCATE
      match ← peek? with
      | some (.word _ k) => unless k == some .WITH || k == some .WITHOUT do unexpected
      | some (.text _) | some (.national _) | some (.hex _) => void (expression level mode)
      | _ => unexpected
      let _ ← needOneOf [.WITH, .WITHOUT]
      need .COUNT

/-- The type of a document that a function returns. -/
def optionalReturning : Parser Unit := clause .RETURNING (dataType level)

/-- The arguments of a function up to the closing parenthesis; the opening one has been read. -/
def arguments : Parser Unit := do
  optionalDocumentNull
  optionalReturning level
  unless ← token .rightParen do
    let all ← keyword .ALL
    let distinct ← keyword .DISTINCT
    if all && distinct then unexpected
    listOf (argument level mode)
    optionalOrderBy level mode
    clause .LIMIT (expression level mode)
    optionalOverflow level mode
    optionalDocumentNull
    optionalReturning level
    expect .rightParen

/-- One end of the frame of a window. -/
def frameBound : Parser Unit := do
  unless ← phrase [.CURRENT, .ROW] do
    unless ← keyword .UNBOUNDED do
      match ← peek? with
      | some (.text _) =>
        void next?
        void (optionalCollation mode)
        intervalQualifier
      | _ => void (expression level mode)
    let _ ← needOneOf [.PRECEDING, .FOLLOWING]

/-- The definition of a window up to the closing parenthesis; the opening one has been read. -/
def window : Parser Unit := do
  match ← peek? with
  | some (.word _ none) => void next?
  | _ => pure ()
  phraseClause [.PARTITION, .BY] (expressions level mode)
  optionalOrderBy level mode
  unless ← token .rightParen do
    let _ ← needOneOf [.ROWS, .RANGE, .GROUPS]
    if ← keyword .BETWEEN then
      frameBound level mode
      need .AND
      frameBound level mode
    else frameBound level mode
    expect .rightParen

/-- The call of a function whose name has been read. -/
def functionCall : Parser Unit := do
  expect .leftParen
  arguments level mode
  if ← phrase [.WITHIN, .GROUP] then
    parenthesized do
      needAll [.ORDER, .BY]
      listOf (orderItem level mode)
  if ← keyword .FILTER then
    if ← token .leftParen then
      if ← keyword .WHERE then
        void (expression level mode)
        expect .rightParen
  optionalNullTreatment
  if ← keyword .OVER then
    if ← token .leftParen then window level mode else void identifier

end

end Conformance.Sql.Grammar
