import Conformance.Sql.Grammar.Change

set_option autoImplicit false

/-!
# Queries

How far a query reaches: its common tables, its body, and the clauses that order and limit its rows
or lock them or tell the form they are written in.  A change of rows may take the place of a body.
-/

namespace Conformance.Sql.Grammar

open Conformance.Sql.Parser

/-- A lock on the rows of a query. -/
def lockBody : Parser Unit := do
  let _ ← needOneOf [.UPDATE, .SHARE]
  clause .OF objectName
  unless ← keyword .NOWAIT do skipPhrase [.SKIP, .LOCKED]

/-- How many rows to fetch. -/
def fetchBody : Parser Unit := do
  skip [.FIRST, .NEXT]
  unless ← anyOf [.ROW, .ROWS] do
    void value
    skip [.PERCENT]
    skip [.ROW, .ROWS]
  unless ← keyword .ONLY do skipPhrase [.WITH, .TIES]

/-- The name of an element, between parentheses. -/
def elementName : Parser Unit := parenthesized (void textLiteral)

/-- The form of rows as elements; `XML` has been read.  After a comma there may be no option. -/
def xmlForm : Parser Unit := do
  match ← needOneOf [.RAW, .AUTO, .EXPLICIT, .PATH] with
  | .RAW | .PATH => if ← parenthesisAhead then elementName
  | _ => pure ()
  whileTrue do
    if ← token .comma then
      match ← oneOf [.ELEMENTS, .BINARY, .ROOT, .TYPE] with
      | some .BINARY => need .BASE64
      | some .ROOT => elementName
      | _ => pure ()
      return true
    else return false

/-- The form of rows as objects; `JSON` has been read.  After a comma there may be no option. -/
def jsonForm : Parser Unit := do
  let _ ← needOneOf [.AUTO, .PATH]
  whileTrue do
    if ← token .comma then
      match ← oneOf [.ROOT, .INCLUDE_NULL_VALUES, .WITHOUT_ARRAY_WRAPPER] with
      | some .ROOT => elementName
      | _ => pure ()
      return true
    else return false

/-- Clauses that begin with `FOR`: locks, up to one that tells the form of the rows. -/
def forClauses : Parser Unit :=
  whileTrue do
    if ← keyword .FOR then
      match ← oneOf [.XML, .JSON, .BROWSE] with
      | some .XML =>
        xmlForm
        return false
      | some .JSON =>
        jsonForm
        return false
      | some _ => return false
      | none =>
        lockBody
        return true
    else return false

section

variable (level : Level) (mode : Mode)

/-- A common table of a query. -/
def commonTable : Parser Unit := do
  void identifier
  unless ← keyword .AS do
    optionalAliasColumns level
    need .AS
  parenthesized (level.query mode)
  clause .FROM identifier

/-- The number of rows to skip. -/
def offsetBody : Parser Unit := do
  void (expression level mode)
  skip [.ROW, .ROWS]

/-- How many rows a query yields and how many it skips. -/
def optionalLimit : Parser Unit := do
  let skipped ← keyword .OFFSET
  if skipped then offsetBody level mode
  if ← keyword .LIMIT then
    if ← keyword .ALL then
      if !skipped then clause .OFFSET (offsetBody level mode)
    else
      void (expression level mode)
      if !skipped then
        if ← token .comma then void (expression level mode)
        else clause .OFFSET (offsetBody level mode)

/-- A query. -/
def queryBody : Parser Unit := do
  if ← keyword .WITH then
    skip [.RECURSIVE]
    listOf (commonTable level mode)
  match ← oneOf [.INSERT, .UPDATE, .DELETE, .MERGE] with
  | some .INSERT => insertBody level mode
  | some .UPDATE => updateBody level mode
  | some .DELETE => deleteBody level mode
  | some _ => mergeBody level mode
  | none =>
    body level mode
    optionalOrderBy level mode
    optionalLimit level mode
    clause .FETCH fetchBody
    forClauses

end

end Conformance.Sql.Grammar
