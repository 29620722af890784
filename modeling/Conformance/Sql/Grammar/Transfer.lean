import Conformance.Sql.Grammar.Change

set_option autoImplicit false

/-!
# Transfer and upkeep

Statements that copy rows between tables and files, and that look after whole tables.
-/

namespace Conformance.Sql.Grammar

open Conformance.Sql.Parser

/-- An option of a copy. -/
def copyOption : Parser Unit := do
  match ← needOneOf [.FORMAT, .FREEZE, .DELIMITER, .NULL, .HEADER, .QUOTE, .ESCAPE, .FORCE_QUOTE,
    .FORCE_NOT_NULL, .FORCE_NULL, .ENCODING] with
  | .FORMAT => void identifier
  | .FREEZE | .HEADER => skip [.TRUE, .FALSE]
  | .DELIMITER | .QUOTE | .ESCAPE => singleByte
  | .FORCE_QUOTE | .FORCE_NOT_NULL | .FORCE_NULL => listIn identifier
  | _ => void textLiteral

/-- New names for tables; `RENAME` has been read. -/
def tableRenamings : Parser Unit := do
  need .TABLE
  listOf do
    void objectName
    need .TO
    void objectName

/-- A table whose files are looked for again; `MSCK` has been read. -/
def repairBody : Parser Unit := do
  skip [.REPAIR]
  need .TABLE
  void objectName

/-- A table that is no longer kept in memory; `UNCACHE` has been read. -/
def uncacheBody : Parser Unit := do
  need .TABLE
  optionalIfExists
  void objectName

section

variable (level : Level)

/-- The other end of a copy.  Rows of the statement itself would have to follow a semicolon. -/
def copyTarget : Parser Unit := do
  if ← keyword .STDIN then unexpected
  else
    unless ← keyword .STDOUT do
      skip [.PROGRAM]
      void textLiteral

/-- Rows copied between a table or a query and a file; `COPY` has been read.  No rows can be copied
to a query. -/
def copyBody : Parser Unit := do
  let isQuery ← token .leftParen
  if isQuery then
    level.query .normal
    expect .rightParen
  else
    void objectName
    optionalColumnNames
  if (← needOneOf [.FROM, .TO]) == .FROM && isQuery then unexpected
  copyTarget
  skip [.WITH]
  if ← parenthesisAhead then listIn copyOption

/-- The rows of a query written to files; `UNLOAD` has been read. -/
def unloadBody : Parser Unit := do
  parenthesized do
    match ← peek? with
    | some (.text _) => void next?
    | _ => level.query .normal
  need .TO
  void identifier
  if ← keyword .IAM_ROLE then
    unless ← keyword .DEFAULT do void textLiteral
  void (optionsAfter level .WITH)

/-- The rows of a query sent elsewhere; `EXPORT` has been read. -/
def exportBody : Parser Unit := do
  need .DATA
  phraseClause [.WITH, .CONNECTION] objectName
  need .OPTIONS
  listIn (keyedOption level)
  need .AS
  level.query .normal

/-- A file that is used as a schema; `ATTACH` has been read. -/
def attachBody : Parser Unit := do
  skip [.DATABASE]
  void (expression level .normal)
  need .AS
  void identifier

/-- What is found out about a table; `ANALYZE` has been read. -/
def analyzeBody : Parser Unit := do
  skip [.TABLE]
  void objectName
  whileTrue do
    match ← oneOf [.PARTITION, .FOR, .CACHE, .NOSCAN, .COMPUTE] with
    | none => return false
    | some k =>
      match k with
      | .PARTITION => partBody level .normal
      | .FOR =>
        need .COLUMNS
        void (attempt (listOf identifier))
      | .CACHE => need .METADATA
      | .COMPUTE => need .STATISTICS
      | _ => pure ()
      return true

/-- What a table that is kept in memory is made of, unless the statement ends here. -/
def cachedContents : Parser Unit := do
  unless ← atEnd do
    void (optionsAfter level .OPTIONS)
    unless ← atEnd do
      match ← peek? with
      | some (.word _ _) =>
        skip [.AS]
        level.query .normal
      | _ => unexpected

/-- A table that is kept in memory, perhaps after a flag; `CACHE` has been read. -/
def cacheBody : Parser Unit := do
  unless ← keyword .TABLE do
    void objectName
    need .TABLE
  void objectName
  cachedContents level

/-- Tables that lose their rows; `TRUNCATE` has been read. -/
def truncateBody : Parser Unit := do
  skip [.TABLE]
  listOf do
    skip [.ONLY]
    void objectName
  clause .PARTITION (partBody level .normal)
  phraseClause [.ON, .CLUSTER] identifier

end

end Conformance.Sql.Grammar
