import Conformance.Number.Shortest

set_option autoImplicit false

/-!
# Numerals

How a number cell is written.  Whole numbers below `10 ^ 15` are written as integers, zero without
a sign.  Every other finite number is written with the fewest digits that read back, always
positionally and never with an exponent.
-/

namespace Conformance

/-- Magnitude from which a whole number is written through its shortest decimal. -/
def integerLimit : Nat := Nat.pow 10 15

namespace Decimal

/-- The numeral without an exponent: zeros fill the places up to the point. -/
def positional (d : Decimal) : List Char :=
  let digits := Nat.toDigits 10 d.digits
  match d.exponent with
  | .ofNat zeros => digits ++ List.replicate zeros '0'
  | .negSucc n =>
    let places := n + 1
    if places < digits.length then
      digits.take (digits.length - places) ++ '.' :: digits.drop (digits.length - places)
    else
      '0' :: '.' :: List.replicate (places - digits.length) '0' ++ digits

end Decimal

namespace Binary64

/-- The numeral of a magnitude. -/
def magnitudeNumeral (x : Binary64) : List Char :=
  if x.isIntegral && x.wholePart < integerLimit then Nat.toDigits 10 x.wholePart
  else x.shortest.positional

/-- A minus sign is written for negative numbers, but not for the negative zero. -/
def signChars (x : Binary64) : List Char :=
  if x.isNegative && x.units != 0 then ['-'] else []

/-- The written form of a number. -/
def numeral (x : Binary64) : String :=
  if x.isFinite then String.ofList (x.signChars ++ x.magnitudeNumeral)
  else if x.fraction = 0 then (if x.isNegative then "-inf" else "inf")
  else "NaN"

end Binary64

end Conformance
