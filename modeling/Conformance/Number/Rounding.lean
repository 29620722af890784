import Conformance.Number.Binary64

set_option autoImplicit false

/-!
# Rounding to double precision

The double nearest to an exact quotient of natural numbers; of two equally near ones the one with
an even significand, and an infinity when the quotient is too large.  Integers and decimal
numerals are read through it.
-/

namespace Conformance

/-- The whole number nearest to `n / d`; of two equally near ones the even one. -/
def roundHalfEven (n d : Nat) : Nat :=
  let q := n / d
  let r := n % d
  if 2 * r < d then q else if d < 2 * r then q + 1 else q + q % 2

namespace Binary64

/-- The bits of positive infinity. -/
def infinityBits : Nat := 2047 * Nat.pow 2 52

/-- The biased exponent of the interval between powers of two that holds `n` units. -/
def fieldFor (n : Nat) : Nat := max 1 (Nat.log2 n - 51)

/-- The bits of the double nearest to `num / den`: the significand is the quotient counted in gaps
of its binade, and a significand that rounds up to `2 ^ 53` carries into the exponent. -/
def nearestBits (num den : Nat) : Nat :=
  let field := fieldFor (num * unitsPerOne / den)
  min infinityBits
    ((field - 1) * Nat.pow 2 52 + roundHalfEven (num * unitsPerOne) (den * Nat.pow 2 (field - 1)))

/-- The double nearest to `num / den`, negated if `negative` is set. -/
def ofRatio (negative : Bool) (num den : Nat) : Binary64 :=
  ⟨UInt64.ofNat ((if negative then Nat.pow 2 63 else 0) + nearestBits num den)⟩

/-- The double nearest to an integer. -/
def ofInt (n : Int) : Binary64 := ofRatio (n < 0) n.natAbs 1

/-- The double nearest to `digits * 10 ^ exponent`.  Exponents beyond the range of doubles are
brought to its edge, which does not change the nearest double. -/
def ofDecimal (negative : Bool) (digits : Nat) (exponent : Int) : Binary64 :=
  let lowest : Int := -(400 + (Nat.log2 digits : Int))
  match max lowest (min exponent 400) with
  | .ofNat e => ofRatio negative (digits * Nat.pow 10 e) 1
  | .negSucc e => ofRatio negative digits (Nat.pow 10 (e + 1))

end Binary64

end Conformance
