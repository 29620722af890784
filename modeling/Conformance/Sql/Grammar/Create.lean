import Conformance.Sql.Grammar.Change
import Conformance.Sql.Grammar.Routine
import Conformance.Sql.Grammar.Table

set_option autoImplicit false

/-!
# Definitions

`CREATE` and what it may define besides tables.
-/

namespace Conformance.Sql.Grammar

open Conformance.Sql.Parser

/-- A person or role that owns something. -/
def owner : Parser Unit := void identifier

/-- A virtual table; `VIRTUAL` has been read. -/
def virtualTableBody : Parser Unit := do
  need .TABLE
  optionalIfNotExists
  void objectName
  need .USING
  void identifier
  optionalColumnNames

/-- Parameters of a view before the word `VIEW`. -/
def optionalViewParameters : Parser Unit := do
  if ← keyword .ALGORITHM then
    expect equalSign
    let _ ← needOneOf [.UNDEFINED, .MERGE, .TEMPTABLE]
  if ← keyword .DEFINER then
    expect equalSign
    void objectName
  if ← phrase [.SQL, .SECURITY] then
    let _ ← needOneOf [.DEFINER, .INVOKER]

/-- A secret; `SECRET` has been read.  Where its name and its place may stand, any token will do. -/
def secretBody : Parser Unit := do
  optionalIfNotExists
  unless ← parenthesisAhead do
    let placed ← if ← keyword .IN then identifierOrToken else do
      void identifierOrToken
      pure false
    unless placed do clause .IN identifierOrToken
  parenthesized do
    need .TYPE
    void identifier
    if ← token .comma then
      listOf do
        void identifier
        void identifier

/-- An option of a user: a word set to a text, a word or a number. -/
def userOption : Parser Unit := do
  expect equalSign
  match ← next? with
  | some (.text _) | some (.word _ _) | some (.number _ _) => return ()
  | _ => unexpected

/-- Options of a user, with or without commas in between.  They end before one of some words, and
at a closing parenthesis where one was opened; the end of the text ends them in any case. -/
def userOptions (parenthesis : Bool) (ends : List Keyword) : Parser Unit :=
  whileTrue do
    if ← ahead ends then return false
    else
      match ← next? with
      | none => return false
      | some .rightParen => if parenthesis then return false else unexpected
      | some .comma => return true
      | some (.word _ _) =>
        userOption
        return true
      | some _ => unexpected

/-- A user; `USER` has been read. -/
def userBody : Parser Unit := do
  optionalIfNotExists
  void identifier
  userOptions false [.WITH, .TAG]
  skip [.WITH]
  if ← keyword .TAG then
    expect .leftParen
    userOptions true []

/-- An extension; `EXTENSION` has been read. -/
def extensionBody : Parser Unit := do
  optionalIfNotExists
  void identifier
  if ← keyword .WITH then
    clause .SCHEMA identifier
    clause .VERSION identifier

/-- A database; `DATABASE` has been read. -/
def databaseBody : Parser Unit := do
  optionalIfNotExists
  void objectName
  whileTrue do
    if ← anyOf [.LOCATION, .MANAGEDLOCATION] then
      void textLiteral
      return true
    else return false
  clause .CLONE objectName

/-- Roles; `ROLE` has been read. -/
def roleBody : Parser Unit := do
  optionalIfNotExists
  listOf objectName

/-- A server for foreign data; `SERVER` has been read. -/
def serverBody : Parser Unit := do
  optionalIfNotExists
  void objectName
  clause .TYPE identifier
  clause .VERSION identifier
  needAll [.FOREIGN, .DATA, .WRAPPER]
  void objectName
  clause .OPTIONS <| listIn do
    void identifier
    void identifier

section

variable (level : Level)

/-- Changes of a table that may follow an index, read by `change`. -/
def indexChanges (change : Parser Unit) : Parser Unit :=
  whileTrue do
    if ← ahead [.ALGORITHM, .LOCK] then
      change
      return true
    else return false

/-- An index; `INDEX` has been read. -/
def indexBody (change : Parser Unit) : Parser Unit := do
  skip [.CONCURRENTLY]
  let conditional ← phrase [.IF, .NOT, .EXISTS]
  let unnamed ← if conditional then pure false else keyword .ON
  unless unnamed do
    void objectName
    need .ON
  void objectName
  optionalIndexType
  indexColumns level
  clause .INCLUDE (listIn identifier)
  if ← keyword .NULLS then
    skip [.NOT]
    need .DISTINCT
  clause .WHERE (expression level .normal)
  indexOptions
  indexChanges change

/-- A column of a view, perhaps with options. -/
def viewColumn : Parser Unit := do
  void identifier
  plainColumnOptions level

/-- A view; `VIEW` has been read. -/
def viewBody : Parser Unit := do
  let conditional ← phrase [.IF, .NOT, .EXISTS]
  void objectName
  unless conditional do optionalIfNotExists
  if ← parenthesisAhead then listOrNoneIn (viewColumn level)
  void (optionsAfter level .WITH)
  if ← keyword .CLUSTER then
    need .BY
    optionalColumnNames
  need .AS
  level.query .normal

/-- Who a policy is for, and the conditions it sets. -/
def policyRules : Parser Unit := do
  clause .TO (listOf owner)
  clause .USING (condition level)
  phraseClause [.WITH, .CHECK] (condition level)

/-- A policy for the rows of a table; `POLICY` has been read. -/
def policyBody : Parser Unit := do
  void identifier
  need .ON
  void objectName
  clause .AS (needOneOf [.PERMISSIVE, .RESTRICTIVE])
  clause .FOR (needOneOf [.ALL, .SELECT, .INSERT, .UPDATE, .DELETE])
  policyRules level

/-- A schema; `SCHEMA` has been read. -/
def schemaBody : Parser Unit := do
  optionalIfNotExists
  if ← keyword .AUTHORIZATION then void identifier
  else
    void objectName
    clause .AUTHORIZATION identifier
  phraseClause [.DEFAULT, .COLLATE] (expression level .normal)
  void (optionsAfter level .WITH)
  void (optionsAfter level .OPTIONS)
  clause .CLONE objectName

/-- A domain; `DOMAIN` has been read. -/
def domainBody : Parser Unit := do
  void objectName
  need .AS
  void (dataType level)
  clause .COLLATE identifier
  clause .DEFAULT (expression level .normal)
  whileTrue (tableConstraint level)

/-- A sequence; `SEQUENCE` has been read. -/
def sequenceBody : Parser Unit := do
  optionalIfNotExists
  void objectName
  clause .AS (dataType level)
  sequenceOptions
  if ← phrase [.OWNED, .BY] then
    unless ← keyword .NONE do void objectName

/-- A type; `TYPE` has been read.  Its list of parts may end with a comma. -/
def typeBody : Parser Unit := do
  void objectName
  need .AS
  if ← keyword .ENUM then listOrNoneIn identifier
  else if ← token .leftParen then
    unless ← token .rightParen do
      whileTrue do
        void identifier
        void (dataType level)
        clause .COLLATE objectName
        let more ← token .comma
        if ← token .rightParen then return false
        else if more then return true
        else unexpected

/-- A procedure; `PROCEDURE` has been read. -/
def procedureBody : Parser Unit := do
  void objectName
  procedureParameters level
  clause .LANGUAGE identifier
  need .AS
  block level [.END]

/-- A connector; `CONNECTOR` has been read. -/
def connectorBody : Parser Unit := do
  optionalIfNotExists
  void identifier
  clause .TYPE textLiteral
  clause .URL textLiteral
  if ← keyword .COMMENT then
    optionalEqual
    quotedText
  void (optionsAfterPhrase level [.WITH, .DCPROPERTIES])

/-- A definition that is not about a table and cannot replace an older one, by its first word. -/
def plainDefinition (change : Parser Unit) : Parser Unit := do
  match ← next? with
  | some (.word _ (some k)) =>
    match k with
    | .EXTENSION => extensionBody
    | .INDEX => indexBody level change
    | .UNIQUE =>
      need .INDEX
      indexBody level change
    | .VIRTUAL => virtualTableBody
    | .SCHEMA => schemaBody level
    | .DATABASE => databaseBody
    | .ROLE => roleBody
    | .SEQUENCE => sequenceBody level
    | .TYPE => typeBody level
    | .PROCEDURE => procedureBody level
    | .CONNECTOR => connectorBody level
    | .SERVER => serverBody
    | _ => unexpected
  | _ => unexpected

/-- A definition; `CREATE` has been read, and `change` reads a change of a table. -/
def createBody (change : Parser Unit) : Parser Statement := do
  let other (p : Parser Unit) : Parser Statement := do
    p
    return .other
  let orReplace ← phrase [.OR, .REPLACE]
  skipPhrase [.OR, .ALTER]
  skip [.LOCAL]
  skip [.GLOBAL]
  skip [.TRANSIENT]
  skip [.TEMP, .TEMPORARY]
  optionalViewParameters
  if ← onePhrase [[.SECURE, .MATERIALIZED, .VIEW], [.SECURE, .VIEW], [.MATERIALIZED, .VIEW],
      [.VIEW]] then other (viewBody level)
  else
    match ← oneOf [.TABLE, .EXTERNAL, .POLICY, .DOMAIN, .SECRET, .USER] with
    | some .TABLE => tableBody level
    | some .EXTERNAL => externalTableBody level
    | some .POLICY => other (policyBody level)
    | some .DOMAIN => other (domainBody level)
    | some .SECRET => other secretBody
    | some _ => other userBody
    | none => if orReplace then unexpected else other (plainDefinition level change)

end

end Conformance.Sql.Grammar
