import Conformance.Json.Token
import Conformance.Number.Rounding

set_option autoImplicit false

/-!
# JSON values

A JSON document is one value.  The members of an object keep their order and may repeat; what a
repetition means is for the reader of the object to say.
-/

namespace Conformance

/-- A JSON value. -/
inductive Json where
  | null
  | bool (value : Bool)
  | number (numeral : Json.Numeral)
  /-- A string; there is no text if it holds half of a surrogate pair. -/
  | string (text : Option String)
  | array (items : List Json)
  | object (members : List (Option String × Json))
  deriving Repr, Inhabited

namespace Json

mutual

/-- Reads a value at the front of some tokens.  A value takes at least as many tokens as it takes
steps. -/
def read : Nat → List Token → Option (Json × List Token)
  | 0, _ => none
  | steps + 1, tokens =>
    match tokens with
    | .null :: rest => some (.null, rest)
    | .bool b :: rest => some (.bool b, rest)
    | .number n :: rest => some (.number n, rest)
    | .string s :: rest => some (.string s, rest)
    | .leftBracket :: .rightBracket :: rest => some (.array [], rest)
    | .leftBracket :: rest => (readItems steps rest).map fun (items, rest) => (.array items, rest)
    | .leftBrace :: .rightBrace :: rest => some (.object [], rest)
    | .leftBrace :: rest =>
      (readMembers steps rest).map fun (members, rest) => (.object members, rest)
    | _ => none

/-- Reads one or more items with commas in between, up to the closing bracket. -/
def readItems : Nat → List Token → Option (List Json × List Token)
  | 0, _ => none
  | steps + 1, tokens =>
    match read steps tokens with
    | some (item, .rightBracket :: rest) => some ([item], rest)
    | some (item, .comma :: rest) =>
      (readItems steps rest).map fun (items, rest) => (item :: items, rest)
    | _ => none

/-- Reads one or more members with commas in between, up to the closing brace. -/
def readMembers : Nat → List Token → Option (List (Option String × Json) × List Token)
  | 0, _ => none
  | steps + 1, tokens =>
    match tokens with
    | .string key :: .colon :: rest =>
      match read steps rest with
      | some (value, .rightBrace :: rest) => some ([(key, value)], rest)
      | some (value, .comma :: rest) =>
        (readMembers steps rest).map fun (members, rest) => ((key, value) :: members, rest)
      | _ => none
    | _ => none

end

/-- The value that a text writes, if it writes exactly one. -/
def ofText? (text : String) : Option Json := do
  let tokens ← Token.ofText? text.toList
  match read tokens.length tokens with
  | some (value, []) => some value
  | _ => none

namespace Numeral

/-- The double nearest to the number. -/
def value (n : Numeral) : Binary64 :=
  let digits := n.whole * Nat.pow 10 n.fraction.length + Token.decimal n.fraction
  Binary64.ofDecimal n.negative digits (n.exponent.getD 0 - n.fraction.length)

end Numeral

end Json

end Conformance
