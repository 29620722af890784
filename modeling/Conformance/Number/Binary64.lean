set_option autoImplicit false

/-!
# Double-precision numbers

A number cell holds an IEEE 754 binary64 value, kept as its 64 bits.  Every finite value is a
whole multiple of the smallest subnormal number, `2 ^ -1074`; `units` is that multiple, so that
all arithmetic on magnitudes below is exact arithmetic on natural numbers.
-/

namespace Conformance

/-- A double-precision number, given by its bits: sign, eleven bits of exponent, 52 of fraction. -/
structure Binary64 where
  bits : UInt64
  deriving DecidableEq, Repr, Inhabited

namespace Binary64

/-- The sign bit is set. -/
def isNegative (x : Binary64) : Bool := Nat.pow 2 63 ≤ x.bits.toNat

/-- The biased exponent. -/
def exponentField (x : Binary64) : Nat := x.bits.toNat / Nat.pow 2 52 % Nat.pow 2 11

/-- The stored fraction. -/
def fraction (x : Binary64) : Nat := x.bits.toNat % Nat.pow 2 52

/-- Neither an infinity nor a NaN. -/
def isFinite (x : Binary64) : Bool := x.exponentField != 2047

/-- The integer significand: a normal number has the leading bit that is not stored. -/
def significand (x : Binary64) : Nat :=
  if x.exponentField = 0 then x.fraction else Nat.pow 2 52 + x.fraction

/-- The gap between neighbouring numbers of this magnitude, in units of `2 ^ -1074`. -/
def gap (x : Binary64) : Nat := Nat.pow 2 (x.exponentField - 1)

/-- The magnitude of a finite number, in units of `2 ^ -1074`. -/
def units (x : Binary64) : Nat := x.significand * x.gap

/-- How many units make one. -/
def unitsPerOne : Nat := Nat.pow 2 1074

/-- The magnitude is a whole number. -/
def isIntegral (x : Binary64) : Bool := x.isFinite && x.units % unitsPerOne == 0

/-- The whole part of the magnitude. -/
def wholePart (x : Binary64) : Nat := x.units / unitsPerOne

theorem exponentField_lt (x : Binary64) : x.exponentField < Nat.pow 2 11 :=
  Nat.mod_lt _ (by decide)

/-- The whole part of an integral magnitude is the magnitude. -/
theorem wholePart_mul_of_isIntegral {x : Binary64} (h : x.isIntegral = true) :
    x.wholePart * unitsPerOne = x.units := by
  simp only [isIntegral, Bool.and_eq_true, beq_iff_eq] at h
  have := Nat.div_add_mod x.units unitsPerOne
  rw [h.2, Nat.add_zero, Nat.mul_comm] at this
  exact this

end Binary64

end Conformance
