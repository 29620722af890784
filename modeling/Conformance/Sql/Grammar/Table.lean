import Conformance.Sql.Grammar.Constraint
import Conformance.Sql.Grammar.Storage

set_option autoImplicit false

/-!
# Table definitions

`CREATE TABLE` and its parts.  Of a definition the name of the table and the names of its columns
are kept, in order; constraints of the table are not columns.  What may follow the column list is
read as far as it makes sense; whatever is left over belongs to nobody.
-/

namespace Conformance.Sql.Grammar

open Conformance.Sql.Parser

/-- Names of options that are followed by a single value. -/
def valuedOptions : List (List Keyword) :=
  [[.DEFAULT, .CHARSET], [.DEFAULT, .CHARACTER, .SET], [.DEFAULT, .COLLATE], [.CHARSET],
   [.CHARACTER, .SET], [.COLLATE], [.DATA, .DIRECTORY], [.INDEX, .DIRECTORY], [.KEY_BLOCK_SIZE],
   [.ROW_FORMAT], [.PACK_KEYS], [.STATS_AUTO_RECALC], [.STATS_PERSISTENT], [.STATS_SAMPLE_PAGES],
   [.DELAY_KEY_WRITE], [.COMPRESSION], [.ENCRYPTED], [.ENCRYPTION], [.MAX_ROWS], [.MIN_ROWS],
   [.AUTOEXTEND_SIZE], [.AVG_ROW_LENGTH], [.CHECKSUM], [.CONNECTION], [.ENGINE_ATTRIBUTE],
   [.PASSWORD], [.SECONDARY_ENGINE_ATTRIBUTE], [.INSERT_METHOD], [.AUTO_INCREMENT]]

/-- An equal sign that may be missing. -/
def optionalEqual : Parser Unit := skipToken equalSign

/-- The device a table is kept on: a word for the disk or for memory, quoted or not. -/
def storageDevice : Parser Unit := do
  match ← next? with
  | some (.word w _) =>
    unless ["DISK", "MEMORY"].contains (Keyword.capitalized w.text.toList) do unexpected
  | _ => unexpected

/-- An option of a table that stands by itself; tells whether there is one. -/
def plainOption : Parser Bool := do
  if ← phrase [.START, .TRANSACTION] then return true
  else if ← keyword .COMMENT then
    optionalEqual
    quotedText
    return true
  else if ← keyword .ENGINE then
    optionalEqual
    match ← next? with
    | some (.word _ _) =>
      optionalColumnNames
      return true
    | _ => unexpected
  else if ← keyword .TABLESPACE then
    optionalEqual
    void identifier
    if ← keyword .STORAGE then
      optionalEqual
      storageDevice
    return true
  else if ← keyword .UNION then
    optionalEqual
    listOrNoneIn identifier
    return true
  else if ← onePhrase valuedOptions then
    optionalEqual
    if (← attempt value).isNone then void identifier
    return true
  else return false

/-- Options of a table, with or without commas in between. -/
def plainOptions : Parser Unit :=
  whileTrue do
    if ← plainOption then
      skipToken .comma
      return true
    else return false

/-- What becomes of the rows of a temporary table when a transaction ends, if it is said. -/
def optionalOnCommit : Parser Unit := do
  if ← phrase [.ON, .COMMIT] then
    unless ← onePhrase [[.DELETE, .ROWS], [.PRESERVE, .ROWS], [.DROP]] do unexpected

/-- The cluster of machines that a statement is about, if it is given. -/
def optionalCluster : Parser Unit := phraseClause [.ON, .CLUSTER] identifier

section

variable (level : Level)

/-- A column or a constraint between the parentheses of a definition. -/
def columnOrConstraint : Parser (Option String) := do
  if ← tableConstraint level then return none
  else
    match ← peek? with
    | some (.word _ _) => return some (← columnDef level)
    | _ => unexpected

/-- The columns of a table; none if there are no parentheses. -/
def columnDefs : Parser (List String) := do
  if ← token .leftParen then
    if ← token .rightParen then return []
    else
      let columns ← commaSeparated (columnOrConstraint level)
      expect .rightParen
      return columns.filterMap id
  else return []

/-- What may follow the columns of a table. -/
def tableTail : Parser Unit := do
  skipPhrase [.WITHOUT, .ROWID]
  optionalPartitionColumns level
  storageClauses level
  clause .INHERITS (listIn objectName)
  let withOptions ← optionsAfter level .WITH
  let properties ← optionsAfter level .TBLPROPERTIES
  unless withOptions || properties do plainOptions
  if ← phrase [.ORDER, .BY] then
    if ← parenthesisAhead then listOrNoneIn (expression level .normal)
    else void (expression level .normal)
  optionalOnCommit
  skip [.STRICT]
  clause .AS (level.query .normal)

/-- The definition of a table; `CREATE TABLE` has been read. -/
def tableBody : Parser Statement := do
  optionalIfNotExists
  let name ← objectName
  optionalCluster
  if ← anyOf [.LIKE, .ILIKE] then void objectName
  clause .CLONE objectNameOrToken
  let columns ← columnDefs level
  tableTail level
  return .createTable name columns

/-- A table in a foreign file; `EXTERNAL` has been read. -/
def externalTableBody : Parser Statement := do
  need .TABLE
  optionalIfNotExists
  let name ← objectName
  let columns ← columnDefs level
  optionalPartitionColumns level
  storageClauses level
  void (optionsAfter level .TBLPROPERTIES)
  return .createTable name columns

end

end Conformance.Sql.Grammar
