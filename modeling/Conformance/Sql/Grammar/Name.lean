import Conformance.Sql.Grammar.Parser

set_option autoImplicit false

/-!
# Names and single values

An identifier is a word, which may be a keyword, or a text literal.  Objects have names of one or
more identifiers with points in between.  A value is a single token, or two for a placeholder that
is named after a colon.
-/

namespace Conformance.Sql.Grammar

open Conformance.Sql.Parser

/-- An identifier. -/
def identifier : Parser String := do
  match ← next? with
  | some (.word w _) => return w.text
  | some (.text s) => return s
  | _ => unexpected

/-- The name of an object, of which the last part is kept. -/
def objectName : Parser String := do
  let first ← identifier
  iterate (fun _ => do
    if ← token .period then return some (← identifier) else return none) first

/-- A token where an identifier may stand; tells whether it is one.  Whatever it is, it is
used up. -/
def identifierOrToken : Parser Bool := do
  match ← next? with
  | some (.word _ _) | some (.text _) => return true
  | _ => return false

/-- Where the name of an object may stand: as much of a name as there is, and the token that
breaks it off after its beginning or after a point. -/
def objectNameOrToken : Parser Unit :=
  whileTrue do
    if ← identifierOrToken then token .period else return false

/-- A list of identifiers between parentheses, which may be missing altogether. -/
def optionalColumnNames : Parser Unit := do
  if ← parenthesisAhead then listIn identifier

/-- `IF NOT EXISTS`, if it is next. -/
def optionalIfNotExists : Parser Unit := skipPhrase [.IF, .NOT, .EXISTS]

/-- `IF EXISTS`, if it is next. -/
def optionalIfExists : Parser Unit := skipPhrase [.IF, .EXISTS]

/-- The next token spells a whole number below a limit, in decimal digits. -/
def wholeBelow (limit : Nat) : Parser Nat := do
  match ← next? with
  | some (.number digits _) =>
    if digits.toList.all Char.isDigit then
      let n := digits.toList.foldl (fun n c => 10 * n + (c.toNat - '0'.toNat)) 0
      if n < limit then return n else unexpected
    else unexpected
  | _ => unexpected

/-- A whole number below `2 ^ 64`. -/
def unsignedInteger : Parser Nat := wholeBelow (Nat.pow 2 64)

/-- A length or precision between parentheses, if there is one. -/
def optionalPrecision : Parser Unit := do
  if ← token .leftParen then
    void unsignedInteger
    expect .rightParen

/-- Operator tokens that have meanings of their own in the grammar. -/
def equalSign : Token := .operator "="
def lessSign : Token := .operator "<"
def greaterSign : Token := .operator ">"
def doubleGreaterSign : Token := .operator ">>"
def star : Token := .operator "*"
def minus : Token := .operator "-"
def plus : Token := .operator "+"
def colon : Token := .operator ":"
def closeBrace : Token := .operator "\x7d"

/-- One sign, if there is any. -/
def optionalSign : Parser Unit := do
  unless ← token minus do skipToken plus

/-- A whole number with an optional sign, of a magnitude below `2 ^ 63`. -/
def signedInteger : Parser Unit := do
  optionalSign
  void (wholeBelow (Nat.pow 2 63))

/-- A text where only a text is expected: a text literal, or a word that is no keyword. -/
def textLiteral : Parser String := do
  match ← next? with
  | some (.text s) => return s
  | some (.word w none) => return w.text
  | _ => unexpected

/-- A text literal. -/
def quotedText : Parser Unit := do
  match ← next? with
  | some (.text _) => return ()
  | _ => unexpected

/-- A text of a single byte. -/
def singleByte : Parser Unit := do
  unless (← textLiteral).utf8ByteSize == 1 do unexpected

/-- What a value is. -/
inductive ValueKind where
  | number
  | text
  | placeholder
  /-- A byte string, a truth value, null, or a text with a character set of its own. -/
  | other
  deriving DecidableEq, Repr

/-- A single value.  A name between double quotes is a text here, and a placeholder may be written
as a colon or an at sign with a word or a number directly after it. -/
def value : Parser ValueKind := do
  match ← next? with
  | some (.number _ _) => return .number
  | some (.text _) => return .text
  | some (.placeholder _) => return .placeholder
  | some (.national _) | some (.hex _) => return .other
  | some (.word w k) =>
    if k == some .TRUE || k == some .FALSE || k == some .NULL then return .other
    else if w.quote == some '\x22' then return .text
    else unexpected
  | some (.operator spelling) =>
    if spelling == ":" || spelling == "@" then
      match ← adjacent? with
      | some (.word _ _) | some (.number _ false) => return .placeholder
      | _ => unexpected
    else unexpected
  | _ => unexpected

/-- A value of one of some kinds. -/
def valueAmong (kinds : List ValueKind) : Parser Unit := do
  unless kinds.contains (← value) do unexpected

/-- A number, or a placeholder for one. -/
def numberValue : Parser Unit := valueAmong [.number, .placeholder]

/-- A number or a placeholder for one, with an optional sign. -/
def signedNumber : Parser Unit := do
  optionalSign
  numberValue

end Conformance.Sql.Grammar
