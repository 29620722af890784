import Conformance.Sql.Grammar.Level

set_option autoImplicit false

/-!
# Sessions and transactions

Settings of a session and of the database, and where transactions begin and end.
-/

namespace Conformance.Sql.Grammar

open Conformance.Sql.Parser

/-- The modes of a transaction.  After a comma there has to be another one. -/
def transactionModes : Parser Unit := do
  let _ ← iterate (fun (required : Bool) => do
    if ← phrase [.ISOLATION, .LEVEL] then
      unless ← onePhrase [[.READ, .UNCOMMITTED], [.READ, .COMMITTED], [.REPEATABLE, .READ],
          [.SERIALIZABLE], [.SNAPSHOT]] do unexpected
      return some (← token .comma)
    else if ← onePhrase [[.READ, .ONLY], [.READ, .WRITE]] then return some (← token .comma)
    else if required then unexpected
    else return none) false

/-- The beginning of a transaction; `BEGIN` has been read. -/
def beginBody : Parser Unit := do
  skip [.DEFERRED, .IMMEDIATE, .EXCLUSIVE, .TRY, .CATCH]
  skip [.TRANSACTION, .WORK]
  transactionModes

/-- Whether the end of a transaction begins the next one. -/
def transactionChain : Parser Unit := do
  skip [.TRANSACTION, .WORK]
  if ← keyword .AND then
    skip [.NO]
    need .CHAIN

/-- Changes that are undone, all of them or back to a point; `ROLLBACK` has been read. -/
def rollbackBody : Parser Unit := do
  transactionChain
  if ← keyword .TO then
    skip [.SAVEPOINT]
    void identifier

/-- A setting of the database; `PRAGMA` has been read.  Its value is a number, a text or a
placeholder. -/
def pragmaBody : Parser Unit := do
  void objectName
  let setting := valueAmong [.number, .text, .placeholder]
  if ← token .leftParen then
    setting
    expect .rightParen
  else if ← token equalSign then setting

/-- A vacuum of the database; `VACUUM` has been read. -/
def vacuumBody : Parser Unit := do
  skip [.FULL]
  skipPhrase [.SORT, .ONLY]
  skipPhrase [.DELETE, .ONLY]
  skip [.REINDEX]
  skip [.RECLUSTER]
  if (← attempt objectName).isSome then
    if ← keyword .TO then
      void value
      need .PERCENT

/-- A connection or a query that is ended; `KILL` has been read. -/
def killBody : Parser Unit := do
  skip [.CONNECTION, .QUERY]
  void unsignedInteger

/-- What is set aside of a session; `DISCARD` has been read. -/
def discardBody : Parser Unit := do
  let _ ← needOneOf [.ALL, .PLANS, .SEQUENCES, .TEMP, .TEMPORARY]

section

variable (level : Level)

/-- The values of a setting, each an expression or a query without parentheses. -/
def settingValues : Parser Unit := listOf do
  if ← queryAhead then level.query .normal else void (expression level .normal)

/-- An equal sign or `TO`; tells whether there is one. -/
def assigns : Parser Bool := do
  if ← token equalSign then return true else keyword .TO

/-- A role that is taken on. -/
def roleSetting : Parser Unit := do
  need .ROLE
  void identifier

/-- A setting of the session; `SET` has been read. -/
def setBody : Parser Unit := do
  if ← keyword .HIVEVAR then expect colon else skip [.SESSION, .LOCAL, .GLOBAL]
  if (← attempt roleSetting).isSome then return ()
  else if ← onePhrase [[.TIME, .ZONE], [.TIMEZONE]] then
    if ← assigns then settingValues level else void (expression level .normal)
  else if ← keyword .CHARACTERISTICS then
    needAll [.AS, .TRANSACTION]
    transactionModes
  else if ← keyword .TRANSACTION then
    if ← keyword .SNAPSHOT then void value else transactionModes
  else
    void objectName
    unless ← assigns do unexpected
    settingValues level

end

end Conformance.Sql.Grammar
