import Conformance.Json.Value

set_option autoImplicit false

/-!
# Written JSON

The text of a value without any white space.  In strings, quotes, backslashes and control
characters are escaped, and everything else stands for itself.
-/

namespace Conformance.Json

/-- A digit to the base sixteen. -/
def hexDigit (n : Nat) : Char := Nat.digitChar n

/-- A character as it stands in a string. -/
def escaped (c : Char) : List Char :=
  if c = '\x22' then ['\\', '\x22']
  else if c = '\\' then ['\\', '\\']
  else if c.toNat < 0x20 then
    ['\\', 'u', '0', '0', hexDigit (c.toNat / 16), hexDigit (c.toNat % 16)]
  else [c]

/-- A string between quotes.  One that has no text is written as half of a surrogate pair. -/
def writtenString : Option String → List Char
  | some s => '\x22' :: (s.toList.flatMap escaped ++ ['\x22'])
  | none => "\"\\ud800\"".toList

/-- A number as it is written. -/
def writtenNumeral (n : Numeral) : List Char :=
  (if n.negative then ['-'] else []) ++ Nat.toDigits 10 n.whole ++
    (if n.fraction.isEmpty then [] else '.' :: n.fraction) ++
    (match n.exponent with
    | some e => 'e' :: (toString e).toList
    | none => [])

mutual

/-- The text of a value. -/
def written : Json → List Char
  | .null => "null".toList
  | .bool b => if b then "true".toList else "false".toList
  | .number n => writtenNumeral n
  | .string s => writtenString s
  | .array [] => ['[', ']']
  | .array (item :: items) => '[' :: (written item ++ writtenItems items)
  | .object [] => ['\x7b', '\x7d']
  | .object ((key, value) :: members) =>
    '\x7b' :: (writtenString key ++ ':' :: (written value ++ writtenMembers members))

/-- The rest of an array, from the comma or the closing bracket on. -/
def writtenItems : List Json → List Char
  | [] => [']']
  | item :: items => ',' :: (written item ++ writtenItems items)

/-- The rest of an object, from the comma or the closing brace on. -/
def writtenMembers : List (Option String × Json) → List Char
  | [] => ['\x7d']
  | (key, value) :: members =>
    ',' :: (writtenString key ++ ':' :: (written value ++ writtenMembers members))

end

/-- The text of a value. -/
def text (value : Json) : String := String.ofList value.written

end Conformance.Json
