import Conformance.Sql.Grammar.ColumnOption
import Conformance.Sql.Grammar.TimeUnit

set_option autoImplicit false

/-!
# Data types

The type of a column: one of the types of the standard with their lengths and precisions, or any
name with modifiers in parentheses.
-/

namespace Conformance.Sql.Grammar

open Conformance.Sql.Parser

/-- What kind of type has been read. -/
inductive TypeKind where
  | standard
  | interval
  | named
  deriving DecidableEq, Repr

/-- The length of a character type in parentheses, if there is one. -/
def optionalCharacterLength : Parser Unit := do
  if ← token .leftParen then
    unless ← keyword .MAX do
      void unsignedInteger
      skip [.CHARACTERS, .OCTETS]
    expect .rightParen

/-- The length of a byte type in parentheses, if there is one. -/
def optionalByteLength : Parser Unit := do
  if ← token .leftParen then
    unless ← keyword .MAX do void unsignedInteger
    expect .rightParen

/-- A precision and a time zone clause, if there are any. -/
def optionalTimeZone : Parser Unit := do
  optionalPrecision
  if ← anyOf [.WITH, .WITHOUT] then needAll [.TIME, .ZONE]

/-- A precision and perhaps a scale with a sign in parentheses, if there are any. -/
def optionalDecimals : Parser Unit := do
  if ← token .leftParen then
    void unsignedInteger
    if ← token .comma then signedInteger
    expect .rightParen

/-- What follows the name of an integer type. -/
def integerSuffix : Parser Unit := do
  optionalPrecision
  skip [.UNSIGNED]

/-- The precision of a point in time and the name of its time zone. -/
def precisionAndZone : Parser Unit := parenthesized do
  void unsignedInteger
  if ← token .comma then void textLiteral

/-- Words, numbers, texts and commas in parentheses, if there are any. -/
def optionalModifiers : Parser Unit := do
  if ← token .leftParen then
    whileTrue do
      match ← next? with
      | some (.word _ _) | some (.number _ _) | some (.text _) | some .comma => return true
      | some .rightParen => return false
      | _ => unexpected

/-- The values of an enumeration type, each perhaps with a number. -/
def enumValues : Parser Unit := listIn do
  void textLiteral
  if ← token equalSign then signedNumber

/-- The values of a set type. -/
def setValues : Parser Unit := listIn quotedText

/-- A bracket that closes a type's element type.  Two of them may stand together; the flag tells
whether the second one has been read as well. -/
def closeBracket (closed : Bool) : Parser Bool := do
  if closed then return false
  if ← token greaterSign then return false
  expect doubleGreaterSign
  return true

/-- Types that are a single word. -/
def plainTypes : List Keyword :=
  [.BOOLEAN, .BOOL, .FLOAT4, .FLOAT32, .FLOAT64, .FLOAT8, .INT16, .INT32, .INT64, .INT128,
   .INT256, .HUGEINT, .UHUGEINT, .UTINYINT, .USMALLINT, .UBIGINT, .UINT8, .UINT16, .UINT32,
   .UINT64, .UINT128, .UINT256, .TINYBLOB, .MEDIUMBLOB, .LONGBLOB, .UUID, .DATE, .DATE32, .JSON,
   .JSONB, .REGCLASS, .TEXT, .TINYTEXT, .MEDIUMTEXT, .LONGTEXT, .BYTEA, .TRIGGER,
   .TIMESTAMP_NTZ]

/-- Types with an optional precision. -/
def precisionTypes : List Keyword :=
  [.CLOB, .BINARY, .BLOB, .BYTES, .DATETIME, .TIMESTAMPTZ, .TIMETZ, .STRING, .VARBIT]

/-- Integer types: an optional precision and an optional sign. -/
def integerTypes : List Keyword :=
  [.TINYINT, .INT2, .SMALLINT, .MEDIUMINT, .INT, .INT4, .INTEGER, .BIGINT, .INT8]

/-- Number types with an optional precision and scale and an optional sign. -/
def decimalTypes : List Keyword := [.FLOAT, .DECIMAL, .DEC]

/-- Number types with an optional precision and scale. -/
def numericTypes : List Keyword := [.NUMERIC, .BIGNUMERIC, .BIGDECIMAL]

/-- Reads a type whose first word has been read, if that word is a standard type's. -/
def standardType (k : Keyword) : Parser (Option TypeKind) := do
  if plainTypes.contains k then return some .standard
  else if precisionTypes.contains k then
    optionalPrecision
    return some .standard
  else if integerTypes.contains k then
    integerSuffix
    return some .standard
  else if decimalTypes.contains k then
    optionalDecimals
    skip [.UNSIGNED]
    return some .standard
  else if numericTypes.contains k then
    optionalDecimals
    return some .standard
  else
    match k with
    | .REAL =>
      skip [.UNSIGNED]
      return some .standard
    | .DOUBLE =>
      unless ← keyword .PRECISION do optionalDecimals
      skip [.UNSIGNED]
      return some .standard
    | .VARCHAR | .NVARCHAR =>
      optionalCharacterLength
      return some .standard
    | .CHARACTER | .CHAR =>
      if ← keyword .VARYING then optionalCharacterLength
      else if ← phrase [.LARGE, .OBJECT] then optionalPrecision
      else optionalCharacterLength
      return some .standard
    | .VARBINARY =>
      optionalByteLength
      return some .standard
    | .BIT =>
      skip [.VARYING]
      optionalPrecision
      return some .standard
    | .TIMESTAMP | .TIME =>
      optionalTimeZone
      return some .standard
    | .DATETIME64 =>
      precisionAndZone
      return some .standard
    | .INTERVAL => return some .interval
    | .FIXEDSTRING =>
      void (parenthesized unsignedInteger)
      return some .standard
    | .ENUM | .ENUM8 | .ENUM16 =>
      enumValues
      return some .standard
    | .SET =>
      setValues
      return some .standard
    | .SIGNED | .UNSIGNED =>
      skip [.INTEGER]
      return some .standard
    | .ANY => if ← keyword .TYPE then return some .standard else return none
    | _ => return none

section

variable (level : Level)

/-- Reads a type of at most `depth` nested types.  The flag tells whether a bracket too many has
been read. -/
def typeWithin : Nat → Parser (TypeKind × Bool)
  | 0 => unexpected
  | depth + 1 => do
    let named : Parser (TypeKind × Bool) := do
      void objectName
      optionalModifiers
      return (.named, false)
    match ← peek? with
    | some (.word _ none) => named
    | some (.word _ (some .ARRAY)) =>
      void next?
      expect lessSign
      let (_, closed) ← typeWithin depth
      return (.standard, ← closeBracket closed)
    | some (.word _ (some .TABLE)) =>
      void next?
      let type : Parser Unit := do
        let (_, closed) ← typeWithin depth
        if closed then unexpected
      if ← parenthesisAhead then listIn (columnDefWith level type)
      return (.standard, false)
    | some (.word _ (some k)) =>
      let standard ← orNothing do
        void next?
        standardType k
      match standard with
      | some kind => return (kind, false)
      | none => named
    | _ => unexpected

/-- A data type. -/
def dataType : Parser TypeKind := do
  let (kind, closed) ← bounded (typeWithin level)
  if closed then unexpected else return kind

/-- The definition of a column, of which the name is kept. -/
def columnDef : Parser String := columnDefWith level (void (dataType level))

end

end Conformance.Sql.Grammar
