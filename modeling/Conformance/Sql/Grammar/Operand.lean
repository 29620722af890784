import Conformance.Sql.Grammar.Call
import Conformance.Sql.Grammar.Operator

set_option autoImplicit false

/-!
# Operands

The parts of an expression between its operators: values, names, calls, forms with words of their
own, and what stands between parentheses.  An operand may carry a collation.
-/

namespace Conformance.Sql.Grammar

open Conformance.Sql.Parser

/-- Words of special meaning that are never names. -/
def neverNames : List Keyword := [.EXISTS, .INTERVAL, .STRUCT, .TRIM]

section

variable (level : Level) (mode : Mode)

/-- The branches of a case distinction; `CASE` has been read. -/
def caseBranches : Parser Unit := do
  unless ← keyword .WHEN do
    void (expression level mode)
    need .WHEN
  whileTrue do
    void (expression level mode)
    need .THEN
    void (expression level mode)
    keyword .WHEN
  clause .ELSE (expression level mode)
  need .END

/-- A conversion to a type; `CAST` has been read. -/
def castBody : Parser Unit := parenthesized do
  void (expression level mode)
  need .AS
  void (dataType level)
  if ← keyword .FORMAT then
    void value
    phraseClause [.AT, .TIME, .ZONE] value

/-- A conversion to a type or a character set; `CONVERT` has been read. -/
def convertBody : Parser Unit := parenthesized do
  void (expression level mode)
  if ← keyword .USING then void objectName
  else
    expect .comma
    void (dataType level)
    phraseClause [.CHARACTER, .SET] objectName

/-- A part of a date; `EXTRACT` has been read. -/
def extractBody : Parser Unit := parenthesized do
  void datePart
  need .FROM
  void (expression level mode)

/-- Rounding to a whole number, a scale or a unit of time; `CEIL` or `FLOOR` has been read. -/
def roundingBody : Parser Unit := parenthesized do
  void (expression level mode)
  if ← keyword .TO then void datePart
  else if ← token .comma then valueAmong [.number]

/-- Where a text occurs in another; `POSITION` has been read. -/
def positionBody : Parser Unit := parenthesized do
  void (level.expr mode comparisonPrecedence)
  need .IN
  void (expression level mode)

/-- A part of a text; `SUBSTRING` has been read. -/
def substringBody : Parser Unit := parenthesized do
  void (expression level mode)
  if ← (do if ← token .comma then return true else keyword .FROM) then
    void (expression level mode)
  if ← (do if ← token .comma then return true else keyword .FOR) then
    void (expression level mode)

/-- A text with a part replaced; `OVERLAY` has been read. -/
def overlayBody : Parser Unit := parenthesized do
  void (expression level mode)
  need .PLACING
  void (expression level mode)
  need .FROM
  void (expression level mode)
  clause .FOR (expression level mode)

/-- A text without given characters at its ends; `TRIM` has been read. -/
def trimBody : Parser Unit := parenthesized do
  skip [.BOTH, .LEADING, .TRAILING]
  void (expression level mode)
  if ← keyword .FROM then void (expression level mode) else skipToken .comma

/-- The negation of a condition; `NOT` has been read. -/
def notBody : Parser Unit := do
  if ← keyword .EXISTS then parenthesized (level.query mode)
  else void (level.expr mode notPrecedence)

/-- The reader of what follows a word of special meaning; none if the word has no special meaning
here.  `call` tells whether a parenthesis follows the word.  A span of time has been tried as a
typed literal before, so that nothing else is left for it. -/
def specialForm? (k : Keyword) (call : Bool) : Option (Parser Unit) :=
  match k with
  | .TRUE | .FALSE | .NULL => some (succeed ())
  | .CURRENT_TIMESTAMP | .CURRENT_TIME | .CURRENT_DATE | .LOCALTIME | .LOCALTIMESTAMP =>
    some do if ← token .leftParen then arguments level mode
  | .CASE => some (caseBranches level mode)
  | .CONVERT => some (convertBody level mode)
  | .CAST | .TRY_CAST | .SAFE_CAST => some (castBody level mode)
  | .EXISTS => some (parenthesized (level.query mode))
  | .EXTRACT => some (extractBody level mode)
  | .CEIL | .FLOOR => some (roundingBody level mode)
  | .POSITION =>
    if call then
      some do if (← attempt (positionBody level mode)).isNone then functionCall level mode
    else none
  | .SUBSTR | .SUBSTRING => some (substringBody level mode)
  | .OVERLAY => some (overlayBody level mode)
  | .TRIM => some (trimBody level mode)
  | .INTERVAL => some unexpected
  | .ARRAY => if call then some (parenthesized (level.query mode)) else none
  | .NOT => some (notBody level mode)
  | _ => none

/-- An operand that begins with a name, which has been read. -/
def namedOperand (w : Word) : Parser Shape := do
  match ← peek? with
  | some .leftParen =>
    functionCall level mode
    return .compound
  | some (.text _) | some (.hex _) =>
    if w.text.toList.head? == some '_' then
      void next?
      return .compound
    else return .name w
  | _ => return .name w

/-- The collation of an operand, if there is one. -/
def collated (shape : Shape) : Parser Shape := do
  if ← optionalCollation mode then return .compound else return shape

/-- An operand that begins with a word, which has been read.  A word whose special form cannot be
read may still be a name, but such a name carries no collation. -/
def wordOperand (w : Word) (k : Option Keyword) : Parser Shape := do
  let call ← parenthesisAhead
  match k.bind fun k => (specialForm? level mode k call).map (k, ·) with
  | none => collated mode (← namedOperand level mode w)
  | some (k, form) =>
    let special : Parser (Shape × Bool) := do
      form
      return (.compound, true)
    let named : Parser (Shape × Bool) := do return (← namedOperand level mode w, false)
    let (shape, isSpecial) ← if neverNames.contains k then special else orElse special named
    if isSpecial then collated mode shape else return shape

/-- The name of a function with a call of it, or a point in time after the letter of its kind, each
between braces; the opening brace has been read. -/
def bracedBody : Parser Unit := do
  let call : Parser Unit := do
    need .FN
    void objectName
    functionCall level mode
  let time : Parser Unit := do
    match ← next? with
    | some (.word w _) =>
      unless w.quote.isNone && ["d", "t", "ts"].contains w.text do unexpected
      void value
    | _ => unexpected
  if (← attempt call).isNone then time
  expect closeBrace

/-- A literal after the name of its type.  The span of time takes an operand of its own. -/
def typedLiteral (operand : Parser Shape) : Parser Unit := do
  match ← dataType level with
  | .interval =>
    void operand
    intervalQualifier
  | .named => unexpected
  | .standard => void value

/-- An operand of at most `depth` nested spans of time. -/
def operandWithin : Nat → Parser Shape
  | 0 => unexpected
  | depth + 1 => do
    if (← attempt (typedLiteral level (delayed fun _ => operandWithin depth))).isSome then
      return .compound
    match ← next? with
    | some (.word w k) => wordOperand level mode w k
    | some (.number _ _) | some (.text _) | some (.national _) | some (.hex _)
    | some (.placeholder _) => collated mode .compound
    | some .leftParen =>
      nested level mode
      collated mode .compound
    | some (.operator spelling) =>
      if spelling == "+" || spelling == "-" then void (level.expr mode productPrecedence)
      else if spelling == ":" || spelling == "@" then
        match ← adjacent? with
        | some (.word _ _) | some (.number _ false) => pure ()
        | _ => unexpected
      else if spelling == "\x7b" then bracedBody level mode
      else unexpected
      collated mode .compound
    | _ => unexpected

/-- An operand. -/
def operand : Parser Shape := bounded (operandWithin level mode)

end

end Conformance.Sql.Grammar
