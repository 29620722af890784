import Conformance.Number.Shortest
import Mathlib.Algebra.Order.Ring.Rat
import Mathlib.Order.Monotone.Basic
import Mathlib.Tactic.Ring

set_option autoImplicit false

/-!
# The order of magnitudes

Without their signs, doubles are ordered as their bits are.  `unitsAt` is the magnitude at a place
of this order: from each place to the next it grows by the gap there (`unitsAt_succ`), so that
larger bits are larger magnitudes, and the neighbours of a double are one gap away.
-/

namespace Conformance.Binary64

/-- The place of a magnitude in the order of all magnitudes. -/
def rank (x : Binary64) : Nat := x.bits.toNat % 2 ^ 63

/-- The distance from the magnitude at a place to the next one. -/
def gapAt (k : Nat) : Nat := 2 ^ (k / 2 ^ 52 - 1)

/-- The magnitude at a place. -/
def unitsAt (k : Nat) : Nat :=
  (if k / 2 ^ 52 = 0 then k % 2 ^ 52 else 2 ^ 52 + k % 2 ^ 52) * gapAt k

theorem unitsPerOne_pos : 0 < unitsPerOne := by decide +kernel

theorem gapAt_pos (k : Nat) : 0 < gapAt k := Nat.two_pow_pos _

theorem exponentField_eq_rank (x : Binary64) : x.exponentField = x.rank / 2 ^ 52 := by
  simp only [exponentField, rank, Nat.pow_eq]
  omega

theorem fraction_eq_rank (x : Binary64) : x.fraction = x.rank % 2 ^ 52 := by
  simp only [fraction, rank, Nat.pow_eq]
  omega

theorem gap_eq_gapAt (x : Binary64) : x.gap = gapAt x.rank := by
  rw [gap, gapAt, ← exponentField_eq_rank, Nat.pow_eq]

theorem units_eq_unitsAt (x : Binary64) : x.units = unitsAt x.rank := by
  rw [units, significand, unitsAt, gap_eq_gapAt, ← exponentField_eq_rank, ← fraction_eq_rank,
    Nat.pow_eq]

theorem unitsAt_succ (k : Nat) : unitsAt (k + 1) = unitsAt k + gapAt k := by
  by_cases hcarry : k % 2 ^ 52 + 1 < 2 ^ 52
  · have hfield : (k + 1) / 2 ^ 52 = k / 2 ^ 52 := by omega
    have hfraction : (k + 1) % 2 ^ 52 = k % 2 ^ 52 + 1 := by omega
    rw [unitsAt, unitsAt, gapAt, gapAt, hfield, hfraction]
    split <;> ring
  -- past the last fraction the exponent grows by one
  · have hfield : (k + 1) / 2 ^ 52 = k / 2 ^ 52 + 1 := by omega
    have hfraction : (k + 1) % 2 ^ 52 = 0 := by omega
    have hlast : k % 2 ^ 52 = 2 ^ 52 - 1 := by omega
    rw [unitsAt, unitsAt, gapAt, gapAt, hfield, hfraction, hlast, if_neg (Nat.succ_ne_zero _)]
    cases k / 2 ^ 52 with
    | zero => rfl
    | succ e =>
      rw [if_neg (Nat.succ_ne_zero e), Nat.add_sub_cancel, Nat.add_sub_cancel, pow_succ]
      ring

theorem unitsAt_strictMono : StrictMono unitsAt := by
  refine strictMono_nat_of_lt_succ fun k => ?_
  rw [unitsAt_succ]
  exact Nat.lt_add_of_pos_right (gapAt_pos k)

theorem unitsAt_zero : unitsAt 0 = 0 := rfl

/-- A magnitude that stands further on is at least one gap larger. -/
theorem unitsAt_add_gapAt_le {j k : Nat} (h : k < j) : unitsAt k + gapAt k ≤ unitsAt j := by
  rw [← unitsAt_succ]
  exact unitsAt_strictMono.monotone h

/-- Doubles of one magnitude have the same bits up to the sign. -/
theorem rank_eq_of_units_eq {x y : Binary64} (h : x.units = y.units) : x.rank = y.rank := by
  rw [units_eq_unitsAt, units_eq_unitsAt] at h
  exact unitsAt_strictMono.injective h

theorem units_eq_zero_iff {x : Binary64} : x.units = 0 ↔ x.rank = 0 := by
  rw [units_eq_unitsAt]
  exact unitsAt_strictMono.injective.eq_iff' unitsAt_zero

theorem even_significand_iff {x : Binary64} : x.significand % 2 = 0 ↔ x.rank % 2 = 0 := by
  rw [significand, fraction_eq_rank, Nat.pow_eq]
  split <;> omega

/-! ## The ends of the interval that rounds to a magnitude -/

theorem upperEnd_eq (x : Binary64) : x.upperEnd = 4 * unitsAt x.rank + 2 * gapAt x.rank := by
  rw [upperEnd, units_eq_unitsAt, gap_eq_gapAt]

/-- Below a double that is not zero the interval reaches half as far as its lower neighbour. -/
theorem lowerEnd_eq {x : Binary64} {k : Nat} (h : x.rank = k + 1) :
    x.lowerEnd = 4 * unitsAt x.rank - 2 * gapAt k := by
  have hgap : (if x.isPowerOfTwo then x.gap else 2 * x.gap) = 2 * gapAt k := by
    rw [gap_eq_gapAt, isPowerOfTwo, h, exponentField_eq_rank, fraction_eq_rank, h]
    by_cases hcarry : (k + 1) % 2 ^ 52 = 0 ∧ 1 < (k + 1) / 2 ^ 52
    · have hfield : (k + 1) / 2 ^ 52 - 1 = k / 2 ^ 52 - 1 + 1 := by omega
      rw [if_pos (by simpa using hcarry), gapAt, gapAt, hfield, pow_succ, Nat.mul_comm]
    · have hfield : (k + 1) / 2 ^ 52 - 1 = k / 2 ^ 52 - 1 := by omega
      rw [if_neg (by simpa using hcarry), gapAt, gapAt, hfield]
  rw [lowerEnd, units_eq_unitsAt, hgap]

end Conformance.Binary64
