import Conformance.Sql.Quoted
import Conformance.Sql.Token
import Conformance.Text.Alphanumeric

set_option autoImplicit false

/-!
# Reading tokens

Cuts a text into tokens from left to right, each as long as possible.  Reading fails at a text
literal, a quoted identifier or a block comment that is not closed, and at a point that is
followed by an underscore without a word before it.  Every other character begins some token.
-/

namespace Conformance.Sql

/-- Why a text cannot be cut into tokens. -/
inductive LexError where
  | unclosedText
  | unclosedIdentifier
  | unclosedComment
  | misplacedUnderscore
  deriving DecidableEq, Repr

namespace LexError

/-- What is wrong with the text. -/
def message : LexError → String
  | .unclosedText => "a text literal is not closed"
  | .unclosedIdentifier => "a quoted identifier is not closed"
  | .unclosedComment => "a block comment is not closed"
  | .misplacedUnderscore => "an underscore follows a point that has no word before it"

end LexError

namespace Lexer

/-- A character that begins a bare word: an ASCII letter, an underscore, or a character from
U+007F to U+FFFF. -/
def isWordStart (c : Char) : Bool :=
  c.isAlpha || c == '_' || (0x7F ≤ c.toNat && c.toNat ≤ 0xFFFF)

/-- A character that continues a bare word. -/
def isWordPart (c : Char) : Bool := isWordStart c || c.isDigit

/-- A digit to the base sixteen. -/
def isHexDigit (c : Char) : Bool :=
  c.isDigit || ('a' ≤ c && c ≤ 'f') || ('A' ≤ c && c ≤ 'F')

/-- ASCII white space.  All other white space belongs to words. -/
def isSpace (c : Char) : Bool :=
  c == ' ' || c == '\t' || c == '\n' || c == '\x0b' || c == '\x0c' || c == '\r'

/-- A character of a placeholder's name. -/
def isPlaceholderPart (c : Char) : Bool := Text.isAlphanumeric c || c == '_' || c == '$'

/-- The spellings of operators. -/
def operators : List String :=
  ["=", "=>", "==", "!", "!=", "!!", "!~", "!~*", "!~~", "!~~*", "<", "<=", "<=>", "<>", "<<",
   "<@", ">", ">=", ">>", "|", "||", "|/", "||/", "&", "&&", "^", "^@", "+", "-", "->", "->>",
   "*", "/", "%", ":", "::", ":=", "\\", "]", "\x7b", "\x7d", "~", "~*", "~~", "~~*", "#", "#-",
   "#>", "#>>", "@", "@@", "@>", "@?"]

/-- The longest operator at the front of a text. -/
def operator? (cs : List Char) : Option (String × List Char) :=
  let spelled (n : Nat) : Option (String × List Char) :=
    let spelling := String.ofList (cs.take n)
    if n ≤ cs.length && operators.contains spelling then some (spelling, cs.drop n) else none
  (spelled 4).or ((spelled 3).or ((spelled 2).or (spelled 1)))

/-- What follows a block comment; its opening has been read already. -/
def afterComment : List Char → Option (List Char)
  | '*' :: '/' :: rest => some rest
  | _ :: rest => afterComment rest
  | [] => none

/-- Reads the rest of a byte string.  A backslash takes the next character with it. -/
def readBytes : List Char → Option (List Char × List Char)
  | '\x27' :: '\x27' :: rest =>
    (readBytes rest).map fun (content, rest) => ('\x27' :: content, rest)
  | '\x27' :: rest => some ([], rest)
  | '\\' :: c :: rest => (readBytes rest).map fun (content, rest) => (c :: content, rest)
  | c :: rest => (readBytes rest).map fun (content, rest) => (c :: content, rest)
  | [] => none

/-- The exponent of a numeral, if one is written out: `e`, an optional sign, and digits. -/
def readExponent (cs : List Char) : List Char × List Char :=
  let digits (lead rest : List Char) : List Char × List Char :=
    match rest with
    | d :: _ => if d.isDigit then (lead ++ rest.takeWhile Char.isDigit, rest.dropWhile Char.isDigit)
      else ([], cs)
    | [] => ([], cs)
  match cs with
  | e :: sign :: rest =>
    if e = 'e' || e = 'E' then
      if sign = '+' || sign = '-' then digits [e, sign] rest else digits [e] (sign :: rest)
    else ([], cs)
  | _ => ([], cs)

/-- Reads a numeral or a point: digits, a point with digits, an exponent, and a suffix `L`; or
`0x` with digits to the base sixteen. -/
def readNumber (cs : List Char) : Token × List Char :=
  let whole := cs.takeWhile Char.isDigit
  match whole, cs.dropWhile Char.isDigit with
  | ['0'], 'x' :: rest =>
    (.hex (String.ofList (rest.takeWhile isHexDigit)), rest.dropWhile isHexDigit)
  | _, rest =>
    let (point, rest) := match rest with
      | '.' :: rest => (['.'], rest)
      | rest => ([], rest)
    let fraction := rest.takeWhile Char.isDigit
    let rest := rest.dropWhile Char.isDigit
    if whole.isEmpty && fraction.isEmpty then (.period, rest)
    else
      let (exponent, rest) := readExponent rest
      let numeral := String.ofList (whole ++ point ++ fraction ++ exponent)
      match rest with
      | 'L' :: rest => (.number numeral true, rest)
      | rest => (.number numeral false, rest)

/-- Reads a bare word. -/
def readWord (cs : List Char) : Token × List Char :=
  (.ofWord ⟨String.ofList (cs.takeWhile isWordPart), none⟩, cs.dropWhile isWordPart)

/-- Reads a text literal whose opening quote has been read. -/
def readText (make : String → Token) (cs : List Char) : Except LexError (Token × List Char) :=
  match readQuoted '\x27' cs with
  | some (content, rest) => .ok (make (String.ofList content), rest)
  | none => .error .unclosedText

/-- Reads an identifier whose opening quote has been read. -/
def readIdentifier (opening close : Char) (cs : List Char) : Except LexError (Token × List Char) :=
  match readQuoted close cs with
  | some (content, rest) => .ok (.ofWord ⟨String.ofList content, some opening⟩, rest)
  | none => .error .unclosedIdentifier

/-- Reads a token that its first character does not settle: a word, an operator, or neither. -/
def readOther (c : Char) (rest : List Char) : Token × List Char :=
  if isWordStart c then readWord (c :: rest)
  else
    match operator? (c :: rest) with
    | some (spelling, rest) => (.operator spelling, rest)
    | none => (.stray c, rest)

/-- Reads the token at the front of a text.  `afterWord` tells whether the token just before it is
a word. -/
def readToken (afterWord : Bool) (c : Char) (cs : List Char) :
    Except LexError (Token × List Char) :=
  match c, cs with
  | '(', rest => .ok (.leftParen, rest)
  | ')', rest => .ok (.rightParen, rest)
  | ',', rest => .ok (.comma, rest)
  | ';', rest => .ok (.semicolon, rest)
  | '\r', '\n' :: rest => .ok (.blank, rest)
  | '-', '-' :: rest => .ok (.blank, (rest.dropWhile (· != '\n')).drop 1)
  | '/', '*' :: rest =>
    match afterComment rest with
    | some rest => .ok (.blank, rest)
    | none => .error .unclosedComment
  | '\x27', rest => readText .text rest
  | 'N', '\x27' :: rest => readText .national rest
  | 'n', '\x27' :: rest => readText .national rest
  | 'X', '\x27' :: rest | 'x', '\x27' :: rest =>
    match readBytes rest with
    | some (content, rest) => .ok (.hex (String.ofList content), rest)
    | none => .error .unclosedText
  | '\x22', rest => readIdentifier '\x22' '\x22' rest
  | '\x60', rest => readIdentifier '\x60' '\x60' rest
  | '[', rest => readIdentifier '[' ']' rest
  | '.', '_' :: rest =>
    if afterWord then .ok (.period, '_' :: rest) else .error .misplacedUnderscore
  | '.', rest => .ok (readNumber ('.' :: rest))
  | '$', rest =>
    .ok (.placeholder (String.ofList ('$' :: rest.takeWhile isPlaceholderPart)),
      rest.dropWhile isPlaceholderPart)
  | '?', rest =>
    .ok (.placeholder (String.ofList ('?' :: rest.takeWhile Text.isNumeric)),
      rest.dropWhile Text.isNumeric)
  | c, rest =>
    if isSpace c then .ok (.blank, rest)
    else if c.isDigit then .ok (readNumber (c :: rest))
    else .ok (readOther c rest)

/-- Reads tokens until the text ends.  Every token takes at least one character, so a text is used
up within as many steps as it has characters. -/
def readTokens : Nat → Bool → List Char → Except LexError (List Token)
  | _, _, [] => .ok []
  | 0, _, _ :: _ => .ok []
  | steps + 1, afterWord, c :: cs => do
    let (token, rest) ← readToken afterWord c cs
    let tokens ← readTokens steps token.isWord rest
    return token :: tokens

end Lexer

/-- The tokens of a text. -/
def tokenize (text : List Char) : Except LexError (List Token) :=
  Lexer.readTokens text.length false text

end Conformance.Sql
