import Conformance.Sql.Grammar.Select
import Conformance.Sql.Grammar.Storage

set_option autoImplicit false

/-!
# Changes of rows

Insertions, updates, deletions and merges, as statements and as ends of a query with common tables.
-/

namespace Conformance.Sql.Grammar

open Conformance.Sql.Parser

/-- How a statement answers a conflict. -/
def optionalConflictClause : Parser Unit := do
  unless ← onePhrase [[.OR, .REPLACE], [.OR, .ROLLBACK], [.OR, .ABORT], [.OR, .FAIL],
      [.OR, .IGNORE]] do skip [.REPLACE]

section

variable (level : Level) (mode : Mode)

/-- An assignment of an expression to a column or to several. -/
def assignment : Parser Unit := do
  if ← parenthesisAhead then listIn objectName else void objectName
  expect equalSign
  void (expression level mode)

/-- Assignments with commas in between. -/
def assignments : Parser Unit := listOf (assignment level mode)

/-- What to do with a row that is in conflict with another; `ON` has been read. -/
def conflictBody : Parser Unit := do
  if ← keyword .CONFLICT then
    if ← phrase [.ON, .CONSTRAINT] then void objectName else optionalColumnNames
    need .DO
    unless ← keyword .NOTHING do
      needAll [.UPDATE, .SET]
      assignments level mode
      clause .WHERE (expression level mode)
  else
    needAll [.DUPLICATE, .KEY, .UPDATE]
    assignments level mode

/-- What a statement returns of the rows it changes. -/
def optionalReturningColumns : Parser Unit := clause .RETURNING (resultColumns level mode)

/-- Expressions that name a part of a table; the word before them has been read. -/
def partBody : Parser Unit := parenthesized (expressions level mode)

/-- The rows of an insertion, and the columns they are for.  A text in a format of its own takes the
place of a query. -/
def insertedRows : Parser Unit := do
  let query ← lookAhead do
    if ← token .leftParen then keyword .SELECT else return false
  unless query do
    optionalColumnNames
    clause .PARTITION (partBody level mode)
  unless ← ahead [.FORMAT, .SETTINGS] do level.query mode

/-- An insertion; `INSERT` has been read. -/
def insertBody : Parser Unit := do
  optionalConflictClause
  skip [.OVERWRITE]
  skip [.INTO]
  skip [.LOCAL]
  if ← keyword .DIRECTORY then
    void textLiteral
    phraseClause [.STORED, .AS] fileFormat
    level.query mode
  else
    skip [.TABLE]
    void objectName
    unless ← phrase [.DEFAULT, .VALUES] do insertedRows level mode
    clause .ON (conflictBody level mode)
    optionalReturningColumns level mode

/-- An update; `UPDATE` has been read. -/
def updateBody : Parser Unit := do
  optionalConflictClause
  tableAndJoins level mode
  let sources ← after .FROM (tables level mode)
  need .SET
  assignments level mode
  if sources.isNone then clause .FROM (tables level mode)
  clause .WHERE (expression level mode)
  optionalReturningColumns level mode
  clause .LIMIT (expression level mode)

/-- A deletion; `DELETE` has been read. -/
def deleteBody : Parser Unit := do
  unless ← keyword .FROM do
    listOf objectName
    need .FROM
  tables level mode
  clause .USING (tables level mode)
  clause .WHERE (expression level mode)
  optionalReturningColumns level mode
  optionalOrderBy level mode
  if ← keyword .LIMIT then
    unless ← keyword .ALL do void (expression level mode)

/-- A case of a merge; `WHEN` has been read.  Rows that the target lacks can be inserted, all others
updated or deleted. -/
def mergeCase : Parser Unit := do
  let negated ← keyword .NOT
  need .MATCHED
  let lacking ← if negated then do
      if ← phrase [.BY, .SOURCE] then pure false
      else
        skipPhrase [.BY, .TARGET]
        pure true
    else pure false
  clause .AND (expression level mode)
  need .THEN
  if lacking then
    need .INSERT
    optionalColumnNames
    need .VALUES
    valueRows level mode
  else
    match ← needOneOf [.UPDATE, .DELETE] with
    | .UPDATE =>
      need .SET
      assignments level mode
    | _ => return ()

/-- A merge of two tables; `MERGE` has been read. -/
def mergeBody : Parser Unit := do
  skip [.INTO]
  tableFactor level mode
  need .USING
  tableFactor level mode
  need .ON
  void (expression level mode)
  whileTrue do
    if ← keyword .WHEN then
      mergeCase level mode
      return true
    else return false
  if ← keyword .OUTPUT then
    resultColumns level mode
    clause .INTO intoBody
  else optionalReturningColumns level mode

end

end Conformance.Sql.Grammar
