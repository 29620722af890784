import Conformance.Sql.Grammar.DataType

set_option autoImplicit false

/-!
# Storage of tables

How the rows of a table are laid out in files: formats, delimiters, locations and properties.
-/

namespace Conformance.Sql.Grammar

open Conformance.Sql.Parser

/-- The format of a file. -/
def fileFormat : Parser Unit := do
  let _ ← needOneOf [.AVRO, .JSONFILE, .ORC, .PARQUET, .RCFILE, .SEQUENCEFILE, .TEXTFILE]

/-- What ends an item of a row. -/
def delimiter (ks : List Keyword) : Parser Bool := do
  if ← phrase ks then
    void identifier
    return true
  else return false

/-- The delimiters of rows.  The list ends at the first word that is not followed by the rest of its
phrase; that word is passed over. -/
def delimiters : Parser Unit :=
  whileTrue do
    match ← oneOf [.FIELDS, .COLLECTION, .MAP, .LINES, .NULL] with
    | some .FIELDS =>
      if ← delimiter [.TERMINATED, .BY] then
        void (delimiter [.ESCAPED, .BY])
        return true
      else return false
    | some .COLLECTION => delimiter [.ITEMS, .TERMINATED, .BY]
    | some .MAP => delimiter [.KEYS, .TERMINATED, .BY]
    | some .LINES => delimiter [.TERMINATED, .BY]
    | some .NULL => delimiter [.DEFINED, .AS]
    | _ => return false

/-- The format of rows; `ROW` has been read. -/
def rowFormat : Parser Unit := do
  need .FORMAT
  if ← keyword .SERDE then void textLiteral
  else
    skip [.DELIMITED]
    delimiters

/-- How a table is stored, in any order. -/
def storageClauses (level : Level) : Parser Unit :=
  whileTrue do
    if ← keyword .ROW then
      rowFormat
      return true
    else if ← keyword .STORED then
      need .AS
      if ← keyword .INPUTFORMAT then
        void (expression level .normal)
        need .OUTPUTFORMAT
        void (expression level .normal)
      else fileFormat
      return true
    else if ← keyword .LOCATION then
      void textLiteral
      return true
    else optionsAfterPhrase level [.WITH, .SERDEPROPERTIES]

/-- The columns that a table is spread over, if any are given. -/
def optionalPartitionColumns (level : Level) : Parser Unit :=
  phraseClause [.PARTITIONED, .BY] (listIn (columnDef level))

end Conformance.Sql.Grammar
