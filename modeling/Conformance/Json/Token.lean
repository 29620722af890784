set_option autoImplicit false

/-!
# JSON tokens

A JSON text is made of punctuation, three words, strings and numbers, with white space in between.
Reading is strict: there are no comments, no control characters within strings, and no numbers
that begin with a needless zero.  Of a string that writes half of a surrogate pair without the
other half, only the fact is kept.
-/

namespace Conformance.Json

/-- A number as it is written. -/
structure Numeral where
  negative : Bool
  /-- The number before the point. -/
  whole : Nat
  /-- The digits behind the point, if there is one. -/
  fraction : List Char
  /-- The exponent, if one is written. -/
  exponent : Option Int
  deriving DecidableEq, Repr, Inhabited

namespace Numeral

/-- The numeral of a natural number. -/
def ofNat (n : Nat) : Numeral := ⟨false, n, [], none⟩

/-- The natural number that is written with digits alone. -/
def natural? (n : Numeral) : Option Nat :=
  if n.negative || !n.fraction.isEmpty || n.exponent.isSome then none else some n.whole

@[simp] theorem natural?_ofNat (n : Nat) : (ofNat n).natural? = some n := by
  simp [ofNat, natural?]

end Numeral

/-- A token of JSON text. -/
inductive Token where
  | leftBrace
  | rightBrace
  | leftBracket
  | rightBracket
  | comma
  | colon
  | null
  | bool (value : Bool)
  | number (numeral : Numeral)
  /-- A string; there is no text if it holds half of a surrogate pair. -/
  | string (text : Option String)
  deriving DecidableEq, Repr

namespace Token

/-- White space between tokens. -/
def isSpace (c : Char) : Bool := c == ' ' || c == '\t' || c == '\n' || c == '\r'

/-! ## Strings -/

/-- A part of a string: a character, or a code unit that is half of a surrogate pair. -/
inductive Part where
  | char (c : Char)
  | half (unit : Nat)
  deriving DecidableEq, Repr

namespace Part

/-- The part that an escaped code unit stands for. -/
def ofUnit (unit : Nat) : Part :=
  if 0xD800 ≤ unit && unit < 0xE000 then .half unit else .char (Char.ofNat unit)

/-- The character that two halves make, the high one first. -/
def pair? (high low : Nat) : Option Char :=
  if high < 0xDC00 && 0xDC00 ≤ low then
    some (Char.ofNat (0x10000 + (high - 0xD800) * 0x400 + (low - 0xDC00)))
  else none

/-- The characters of a string, if no half is left alone. -/
def characters? : List Part → Option (List Char)
  | [] => some []
  | .char c :: parts => (characters? parts).map (c :: ·)
  | .half high :: .half low :: parts => do
    let c ← pair? high low
    let cs ← characters? parts
    return c :: cs
  | .half _ :: _ => none

end Part

/-- The value of a digit to the base sixteen. -/
def hexValue? (c : Char) : Option Nat :=
  if c.isDigit then some (c.toNat - '0'.toNat)
  else if 'a' ≤ c && c ≤ 'f' then some (c.toNat - 'a'.toNat + 10)
  else if 'A' ≤ c && c ≤ 'F' then some (c.toNat - 'A'.toNat + 10)
  else none

/-- The number that digits to the base sixteen write. -/
def hexNumber? (digits : List Char) : Option Nat :=
  digits.foldlM (fun n c => (hexValue? c).map (16 * n + ·)) 0

/-- The characters that a backslash and one more character stand for. -/
def escapes : List (Char × Char) :=
  [('\x22', '\x22'), ('\\', '\\'), ('/', '/'), ('b', '\x08'), ('f', '\x0c'), ('n', '\n'),
   ('r', '\r'), ('t', '\t')]

/-- Reads a string up to its closing quote; the opening quote has been read already. -/
def readParts : List Char → Option (List Part × List Char)
  | [] => none
  | '\x22' :: rest => some ([], rest)
  | '\\' :: 'u' :: a :: b :: c :: d :: rest => do
    let unit ← hexNumber? [a, b, c, d]
    let (parts, rest) ← readParts rest
    return (Part.ofUnit unit :: parts, rest)
  | '\\' :: e :: rest => do
    let c ← escapes.lookup e
    let (parts, rest) ← readParts rest
    return (.char c :: parts, rest)
  | c :: rest =>
    if c.toNat < 0x20 then none
    else do
      let (parts, rest) ← readParts rest
      return (.char c :: parts, rest)

/-- Reads a string whose opening quote has been read. -/
def readString (cs : List Char) : Option (Token × List Char) := do
  let (parts, rest) ← readParts cs
  return (.string ((Part.characters? parts).map String.ofList), rest)

/-! ## Numbers -/

/-- The number that decimal digits write. -/
def decimal (digits : List Char) : Nat :=
  digits.foldl (fun n c => 10 * n + (c.toNat - '0'.toNat)) 0

/-- The digits at the front of a text, of which there must be one, and the rest. -/
def readDigits (cs : List Char) : Option (List Char × List Char) :=
  let digits := cs.takeWhile Char.isDigit
  if digits.isEmpty then none else some (digits, cs.dropWhile Char.isDigit)

/-- Reads the number before the point: a single zero, or digits that begin with another. -/
def readWhole : List Char → Option (Nat × List Char)
  | '0' :: rest => some (0, rest)
  | cs => (readDigits cs).map fun (digits, rest) => (decimal digits, rest)

/-- Reads the point and the digits behind it, if there is a point. -/
def readFraction : List Char → Option (List Char × List Char)
  | '.' :: rest => readDigits rest
  | cs => some ([], cs)

/-- Reads the exponent, if there is one. -/
def readExponent : List Char → Option (Option Int × List Char)
  | [] => some (none, [])
  | e :: rest =>
    if e = 'e' || e = 'E' then
      match rest with
      | '-' :: rest => (readDigits rest).map fun (ds, rest) => (some (-(decimal ds : Int)), rest)
      | '+' :: rest => (readDigits rest).map fun (ds, rest) => (some (decimal ds : Int), rest)
      | rest => (readDigits rest).map fun (ds, rest) => (some (decimal ds : Int), rest)
    else some (none, e :: rest)

/-- Reads a number that may be negative. -/
def readNumeral (negative : Bool) (cs : List Char) : Option (Token × List Char) := do
  let (whole, cs) ← readWhole cs
  let (fraction, cs) ← readFraction cs
  let (exponent, cs) ← readExponent cs
  return (.number ⟨negative, whole, fraction, exponent⟩, cs)

/-! ## Texts -/

/-- Reads the token at the front of a text. -/
def read : List Char → Option (Token × List Char)
  | '\x7b' :: rest => some (.leftBrace, rest)
  | '\x7d' :: rest => some (.rightBrace, rest)
  | '[' :: rest => some (.leftBracket, rest)
  | ']' :: rest => some (.rightBracket, rest)
  | ',' :: rest => some (.comma, rest)
  | ':' :: rest => some (.colon, rest)
  | 'n' :: 'u' :: 'l' :: 'l' :: rest => some (.null, rest)
  | 't' :: 'r' :: 'u' :: 'e' :: rest => some (.bool true, rest)
  | 'f' :: 'a' :: 'l' :: 's' :: 'e' :: rest => some (.bool false, rest)
  | '\x22' :: rest => readString rest
  | '-' :: rest => readNumeral true rest
  | cs => readNumeral false cs

/-- Reads tokens until the text ends.  Every token takes at least one character, so a text is used
up within as many steps as it has characters. -/
def readAll : Nat → List Char → Option (List Token)
  | 0, cs => if (cs.dropWhile isSpace).isEmpty then some [] else none
  | steps + 1, cs =>
    match cs.dropWhile isSpace with
    | [] => some []
    | c :: cs => do
      let (token, rest) ← read (c :: cs)
      let tokens ← readAll steps rest
      return token :: tokens

/-- The tokens of a text. -/
def ofText? (text : List Char) : Option (List Token) := readAll text.length text

end Token

end Conformance.Json
