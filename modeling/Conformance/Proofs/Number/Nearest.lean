import Conformance.Proofs.Number.Magnitude
import Mathlib.Algebra.Order.Field.Basic
import Mathlib.Tactic.Linarith
import Mathlib.Tactic.FieldSimp
import Mathlib.Tactic.LinearCombination

set_option autoImplicit false

/-!
# The double nearest to a number

An exact number rounds to the double that is nearest to it, and to the one with an even significand
if two are equally near (`Nearest`).  These are the numbers of an interval around the double
(`Reads`): halfway to its neighbours, the ends included if its significand is even
(`nearest_of_reads`, `reads_of_nearest`).  The intervals of different magnitudes have no number in
common (`rank_eq_of_reads`), so that a number rounds to one value only.
-/

namespace Conformance.Binary64

/-! ## Values -/

/-- Neither finite nor an infinity. -/
def isNaN (x : Binary64) : Bool := x.exponentField == 2047 && x.fraction != 0

/-- The magnitude as an exact number.  An infinity has the magnitude that follows the largest finite
one, the power `2 ^ 1024`: this is where numbers too large to round to a finite one go. -/
def magnitude (x : Binary64) : ℚ := x.units / unitsPerOne

/-- The exact value of a number. -/
def value (x : Binary64) : ℚ := if x.isNegative then -x.magnitude else x.magnitude

/-- An exact number rounds to a double: no double is nearer to it, and if another value is just as
near, the significand is even. -/
structure Nearest (q : ℚ) (x : Binary64) : Prop where
  closest : ∀ y : Binary64, y.isNaN = false → |q - x.value| ≤ |q - y.value|
  even : ∀ y : Binary64, y.isNaN = false → y.value ≠ x.value → |q - y.value| = |q - x.value| →
    x.significand % 2 = 0

theorem magnitude_nonneg (x : Binary64) : 0 ≤ x.magnitude := by
  unfold magnitude
  positivity

/-- A sign does not change a magnitude. -/
theorem abs_signed {α : Type} [AddCommGroup α] [LinearOrder α] [IsOrderedAddMonoid α] {a : α}
    (h : 0 ≤ a) (negative : Bool) : |if negative then -a else a| = a := by
  split
  · rw [abs_neg, abs_of_nonneg h]
  · rw [abs_of_nonneg h]

/-- Two numbers of one sign have a product that is not negative. -/
theorem mul_signed_nonneg {a b : ℚ} (ha : 0 ≤ a) (hb : 0 ≤ b) (negative : Bool) :
    0 ≤ (if negative then -a else a) * (if negative then -b else b) := by
  split
  · rw [neg_mul_neg]
    exact mul_nonneg ha hb
  · exact mul_nonneg ha hb

theorem abs_value (x : Binary64) : |x.value| = x.magnitude :=
  abs_signed x.magnitude_nonneg x.isNegative

/-! ## The interval around a magnitude -/

/-- A number of quarter units lies in the interval that rounds to the magnitude. -/
def Reads (x : Binary64) (t : ℚ) : Prop :=
  if x.significand % 2 = 0 then (x.lowerEnd : ℚ) ≤ t ∧ t ≤ x.upperEnd
  else (x.lowerEnd : ℚ) < t ∧ t < x.upperEnd

theorem readsBack_iff {x : Binary64} {point scale : Nat} (hscale : 0 < scale) :
    x.readsBack point scale = true ↔ x.Reads (point / scale) := by
  have hpos : (0 : ℚ) < scale := by exact_mod_cast hscale
  unfold readsBack Reads
  split
  · rw [Bool.and_eq_true, decide_eq_true_eq, decide_eq_true_eq, le_div_iff₀ hpos,
      div_le_iff₀ hpos]
    norm_cast
  · rw [Bool.and_eq_true, decide_eq_true_eq, decide_eq_true_eq, lt_div_iff₀ hpos,
      div_lt_iff₀ hpos]
    norm_cast

/-- Whatever the significand, the number lies between the ends. -/
theorem Reads.between {x : Binary64} {t : ℚ} (h : x.Reads t) :
    (x.lowerEnd : ℚ) ≤ t ∧ t ≤ x.upperEnd := by
  unfold Reads at h
  split at h
  · exact h
  · exact ⟨h.1.le, h.2.le⟩

/-- At an end, the significand is even. -/
theorem Reads.even_of_end {x : Binary64} {t : ℚ} (h : x.Reads t)
    (hend : t ≤ x.lowerEnd ∨ (x.upperEnd : ℚ) ≤ t) : x.significand % 2 = 0 := by
  unfold Reads at h
  split at h
  · assumption
  · rcases hend with hend | hend
    · exact absurd h.1 (not_lt.mpr hend)
    · exact absurd h.2 (not_lt.mpr hend)

theorem reads_of_between {x : Binary64} {t : ℚ} (h : (x.lowerEnd : ℚ) ≤ t ∧ t ≤ x.upperEnd)
    (hend : x.significand % 2 ≠ 0 → t ≠ x.lowerEnd ∧ t ≠ x.upperEnd) : x.Reads t := by
  unfold Reads
  split
  · exact h
  · next hodd =>
    obtain ⟨hlower, hupper⟩ := hend hodd
    exact ⟨lt_of_le_of_ne h.1 hlower.symm, lt_of_le_of_ne h.2 hupper⟩

theorem cast_upperEnd (x : Binary64) :
    (x.upperEnd : ℚ) = 4 * unitsAt x.rank + 2 * gapAt x.rank := by
  rw [upperEnd_eq]
  push_cast
  rfl

/-- There is nothing below zero, and its significand is even. -/
theorem reads_of_rank_eq_zero {x : Binary64} (hrank : x.rank = 0) {t : ℚ} (ht : 0 ≤ t)
    (hupper : t ≤ x.upperEnd) : x.Reads t := by
  have hlower : x.lowerEnd = 0 := by
    rw [lowerEnd, units_eq_zero_iff.mpr hrank]
    exact Nat.zero_sub _
  have heven : x.significand % 2 = 0 := even_significand_iff.mpr (by rw [hrank])
  refine reads_of_between ⟨by rw [hlower]; exact_mod_cast ht, hupper⟩ ?_
  intro hodd
  exact absurd heven hodd

theorem cast_unitsAt_succ (k : Nat) : (unitsAt (k + 1) : ℚ) = unitsAt k + gapAt k := by
  rw [unitsAt_succ, Nat.cast_add]

/-- Magnitudes in quarter units are ordered as their places are. -/
theorem cast_unitsAt_lt {j k : Nat} (h : j < k) : (4 * unitsAt j : ℚ) < 4 * unitsAt k := by
  exact_mod_cast Nat.mul_lt_mul_of_pos_left (unitsAt_strictMono h) (by decide)

/-- The lower end of a double that is not zero is the upper end of its lower neighbour. -/
theorem cast_lowerEnd {x : Binary64} {k : Nat} (h : x.rank = k + 1) :
    (x.lowerEnd : ℚ) = 4 * unitsAt k + 2 * gapAt k := by
  have hnat : x.lowerEnd = 4 * unitsAt k + 2 * gapAt k := by
    rw [lowerEnd_eq h, h, unitsAt_succ]
    omega
  rw [hnat]
  push_cast
  rfl

/-- The interval ends before the next magnitude. -/
theorem Reads.lt_next {x : Binary64} {t : ℚ} (h : x.Reads t) : t < 4 * unitsAt (x.rank + 1) := by
  have hupper := h.between.2
  have hgap : (0 : ℚ) < gapAt x.rank := by exact_mod_cast gapAt_pos x.rank
  rw [cast_upperEnd] at hupper
  rw [cast_unitsAt_succ]
  linarith

/-- The interval begins behind the magnitude before. -/
theorem Reads.previous_lt {x : Binary64} {t : ℚ} {k : Nat} (h : x.Reads t) (hk : x.rank = k + 1) :
    4 * unitsAt k < t := by
  have hlower := h.between.1
  have hgap : (0 : ℚ) < gapAt k := by exact_mod_cast gapAt_pos k
  rw [cast_lowerEnd hk] at hlower
  linarith

/-- The interval of a larger magnitude would begin where that of a smaller one ends, at an end of
both. -/
theorem Reads.rank_le {x y : Binary64} {t : ℚ} (hx : x.Reads t) (hy : y.Reads t) :
    y.rank ≤ x.rank := by
  by_contra hlt
  obtain ⟨k, hk⟩ : ∃ k, y.rank = k + 1 := ⟨y.rank - 1, by omega⟩
  rcases Nat.lt_or_ge x.rank k with hfar | hnear
  · have hmono : (unitsAt (x.rank + 1) : ℚ) ≤ unitsAt k := by
      exact_mod_cast unitsAt_strictMono.monotone hfar
    have hnext := hx.lt_next
    have hprevious := hy.previous_lt hk
    linarith
  · have hrank : x.rank = k := by omega
    have hupper := hx.between.2
    have hlower := hy.between.1
    rw [cast_upperEnd, hrank] at hupper
    rw [cast_lowerEnd hk] at hlower
    have heven_x := hx.even_of_end (.inr (by rw [cast_upperEnd, hrank]; exact hlower))
    have heven_y := hy.even_of_end (.inl (by rw [cast_lowerEnd hk]; exact hupper))
    rw [even_significand_iff] at heven_x heven_y
    omega

/-- The intervals of different magnitudes have no number in common. -/
theorem rank_eq_of_reads {x y : Binary64} {t : ℚ} (hx : x.Reads t) (hy : y.Reads t) :
    x.rank = y.rank :=
  le_antisymm (hy.rank_le hx) (hx.rank_le hy)

/-! ## Distances -/

/-- Of two numbers, the smaller is the nearer one up to their midpoint. -/
theorem abs_sub_le_iff_left {a b t : ℚ} (h : a < b) : |t - a| ≤ |t - b| ↔ 2 * t ≤ a + b := by
  have hfactor : (t - b) ^ 2 - (t - a) ^ 2 = (b - a) * (a + b - 2 * t) := by ring
  rw [← sq_le_sq, ← sub_nonneg, hfactor, mul_nonneg_iff_of_pos_left (sub_pos.mpr h), sub_nonneg]

theorem abs_sub_le_iff_right {a b t : ℚ} (h : a < b) : |t - b| ≤ |t - a| ↔ a + b ≤ 2 * t := by
  have hfactor : (t - a) ^ 2 - (t - b) ^ 2 = (b - a) * (2 * t - (a + b)) := by ring
  rw [← sq_le_sq, ← sub_nonneg, hfactor, mul_nonneg_iff_of_pos_left (sub_pos.mpr h), sub_nonneg]

/-- A number of the interval is at most as far from the magnitude as from any other, and as far as
from another only if the significand is even. -/
theorem Reads.closest {x : Binary64} {t : ℚ} (h : x.Reads t) (j : Nat) :
    |t - 4 * unitsAt x.rank| ≤ |t - 4 * unitsAt j| ∧
      (j ≠ x.rank → |t - 4 * unitsAt j| ≤ |t - 4 * unitsAt x.rank| → x.significand % 2 = 0) := by
  rcases Nat.lt_trichotomy j x.rank with hlt | rfl | hlt
  · obtain ⟨k, hk⟩ : ∃ k, x.rank = k + 1 := ⟨x.rank - 1, by omega⟩
    have hmono : (unitsAt j : ℚ) ≤ unitsAt k := by
      exact_mod_cast unitsAt_strictMono.monotone (by omega : j ≤ k)
    have hless := cast_unitsAt_lt hlt
    have hsucc : (unitsAt x.rank : ℚ) = unitsAt k + gapAt k := by rw [hk, cast_unitsAt_succ]
    have hlower := h.between.1
    rw [cast_lowerEnd hk] at hlower
    refine ⟨(abs_sub_le_iff_right hless).mpr (by linarith), fun _ htie => ?_⟩
    rw [abs_sub_le_iff_left hless] at htie
    exact h.even_of_end (.inl (by rw [cast_lowerEnd hk]; linarith))
  · exact ⟨le_rfl, fun hne => absurd rfl hne⟩
  · have hmono : (unitsAt x.rank + gapAt x.rank : ℚ) ≤ unitsAt j := by
      exact_mod_cast unitsAt_add_gapAt_le hlt
    have hless := cast_unitsAt_lt hlt
    have hupper := h.between.2
    rw [cast_upperEnd] at hupper
    refine ⟨(abs_sub_le_iff_left hless).mpr (by linarith), fun _ htie => ?_⟩
    rw [abs_sub_le_iff_right hless] at htie
    exact h.even_of_end (.inr (by rw [cast_upperEnd]; linarith))

/-- Conversely a number that is not nearer to the neighbours lies in the interval. -/
theorem reads_of_closest {x : Binary64} {t : ℚ} (ht : 0 ≤ t)
    (h : ∀ j, j ≤ x.rank + 1 → |t - 4 * unitsAt x.rank| ≤ |t - 4 * unitsAt j| ∧
      (j ≠ x.rank → |t - 4 * unitsAt j| = |t - 4 * unitsAt x.rank| → x.significand % 2 = 0)) :
    x.Reads t := by
  have hnext := h (x.rank + 1) le_rfl
  have hless := cast_unitsAt_lt (Nat.lt_succ_self x.rank)
  have hupper : t ≤ x.upperEnd := by
    have := (abs_sub_le_iff_left hless).mp hnext.1
    rw [cast_unitsAt_succ] at this
    rw [cast_upperEnd]
    linarith
  have hupper_odd : x.significand % 2 ≠ 0 → t ≠ x.upperEnd := by
    rintro hodd rfl
    refine hodd (hnext.2 (Nat.succ_ne_self _) (le_antisymm ?_ hnext.1))
    rw [abs_sub_le_iff_right hless, cast_unitsAt_succ, cast_upperEnd]
    linarith
  cases hrank : x.rank with
  | zero =>
    exact reads_of_rank_eq_zero hrank ht hupper
  | succ k =>
    have hprevious := h k (by omega)
    have hmore : (4 * unitsAt k : ℚ) < 4 * unitsAt x.rank := cast_unitsAt_lt (by omega)
    have hsucc : (unitsAt x.rank : ℚ) = unitsAt k + gapAt k := by rw [hrank, cast_unitsAt_succ]
    have hlower : x.lowerEnd ≤ t := by
      have := (abs_sub_le_iff_right hmore).mp hprevious.1
      rw [cast_lowerEnd hrank]
      linarith
    refine reads_of_between ⟨hlower, hupper⟩ fun hodd => ⟨?_, hupper_odd hodd⟩
    rintro rfl
    refine hodd (hprevious.2 (by omega) (le_antisymm ?_ hprevious.1))
    rw [abs_sub_le_iff_left hmore, cast_lowerEnd hrank]
    linarith

/-! ## Rounding -/

/-- The double of a sign and a place in the order of magnitudes. -/
def signedAt (negative : Bool) (k : Nat) : Binary64 :=
  ⟨UInt64.ofNat (if negative then 2 ^ 63 + k else k)⟩

theorem toNat_bits_signedAt (negative : Bool) {k : Nat} (h : k ≤ 2047 * 2 ^ 52) :
    (signedAt negative k).bits.toNat = if negative then 2 ^ 63 + k else k := by
  rw [signedAt, UInt64.toNat_ofNat']
  refine Nat.mod_eq_of_lt ?_
  split <;> omega

theorem rank_signedAt (negative : Bool) {k : Nat} (h : k ≤ 2047 * 2 ^ 52) :
    (signedAt negative k).rank = k := by
  rw [rank, toNat_bits_signedAt negative h]
  split <;> omega

theorem isNaN_signedAt (negative : Bool) {k : Nat} (h : k ≤ 2047 * 2 ^ 52) :
    (signedAt negative k).isNaN = false := by
  rw [isNaN, exponentField_eq_rank, fraction_eq_rank, rank_signedAt negative h]
  rw [Bool.and_eq_false_imp, beq_iff_eq, bne_eq_false_iff_eq]
  omega

theorem isNegative_signedAt (negative : Bool) {k : Nat} (h : k ≤ 2047 * 2 ^ 52) :
    (signedAt negative k).isNegative = negative := by
  rw [isNegative, toNat_bits_signedAt negative h, Nat.pow_eq]
  cases negative with
  | false => exact decide_eq_false (by rw [if_neg Bool.false_ne_true]; omega)
  | true => exact decide_eq_true (by rw [if_pos rfl]; omega)

theorem rank_lt_of_isFinite {x : Binary64} (h : x.isFinite = true) : x.rank < 2047 * 2 ^ 52 := by
  have hlt := x.exponentField_lt
  rw [isFinite, bne_iff_ne, exponentField_eq_rank] at h
  rw [exponentField_eq_rank, Nat.pow_eq] at hlt
  omega

/-- The number of quarter units that make a number. -/
def quarterUnits (q : ℚ) : ℚ := q * (4 * unitsPerOne)

theorem cast_unitsPerOne_pos : (0 : ℚ) < unitsPerOne := Nat.cast_pos.mpr unitsPerOne_pos

theorem quarterUnits_nonneg {q : ℚ} (h : 0 ≤ q) : 0 ≤ quarterUnits q :=
  mul_nonneg h (mul_nonneg (by decide) cast_unitsPerOne_pos.le)

theorem quarterUnits_sub (q : ℚ) (x : Binary64) :
    quarterUnits q - 4 * unitsAt x.rank = (q - x.magnitude) * (4 * unitsPerOne) := by
  have hscale : ∀ {n u : ℚ}, 0 < n → q * (4 * n) - 4 * u = (q - u / n) * (4 * n) := by
    intro n u hn
    field_simp
  rw [quarterUnits, magnitude, units_eq_unitsAt]
  exact hscale cast_unitsPerOne_pos

/-- Distances of magnitudes in quarter units. -/
theorem abs_sub_magnitude_le_iff {q : ℚ} {x y : Binary64} :
    |q - x.magnitude| ≤ |q - y.magnitude| ↔
      |quarterUnits q - 4 * unitsAt x.rank| ≤ |quarterUnits q - 4 * unitsAt y.rank| := by
  have hpos : (0 : ℚ) < |4 * (unitsPerOne : ℚ)| :=
    abs_pos.mpr (mul_pos (by decide) cast_unitsPerOne_pos).ne'
  rw [quarterUnits_sub, quarterUnits_sub, abs_mul, abs_mul _ (4 * (unitsPerOne : ℚ)),
    mul_le_mul_iff_of_pos_right hpos]

theorem rank_eq_of_magnitude_eq {x y : Binary64} (h : x.magnitude = y.magnitude) :
    x.rank = y.rank := by
  rw [magnitude, magnitude, div_left_inj' cast_unitsPerOne_pos.ne'] at h
  exact rank_eq_of_units_eq (by exact_mod_cast h)

theorem magnitude_eq_of_rank_eq {x y : Binary64} (h : x.rank = y.rank) :
    x.magnitude = y.magnitude := by
  rw [magnitude, magnitude, units_eq_unitsAt, units_eq_unitsAt, h]

/-- Only zero reads back as zero. -/
theorem Reads.rank_eq_zero {x : Binary64} (h : x.Reads 0) : x.rank = 0 := by
  cases hrank : x.rank with
  | zero => rfl
  | succ k =>
    have hprevious := h.previous_lt hrank
    have hunits : (0 : ℚ) ≤ unitsAt k := Nat.cast_nonneg _
    linarith

/-- Numbers are as far from each other as their magnitudes are unless they have opposite signs. -/
theorem abs_sub_le_abs_iff {a b : ℚ} : |a - b| ≤ |(|a| - |b|)| ↔ 0 ≤ a * b := by
  have hsquares : (|a| - |b|) ^ 2 - (a - b) ^ 2 = 2 * (a * b - |a * b|) := by
    rw [abs_mul]
    linear_combination sq_abs a + sq_abs b
  rw [← sq_le_sq, ← sub_nonneg, hsquares]
  constructor
  · intro h
    have := abs_nonneg (a * b)
    linarith
  · intro h
    rw [abs_of_nonneg h]
    linarith

/-- Only zero is as far from a number as from its negative. -/
theorem mul_eq_zero_of_abs_sub_neg {a b : ℚ} (h : |a - -b| = |a - b|) : a * b = 0 := by
  rw [← sq_eq_sq_iff_abs_eq_abs] at h
  linear_combination h / 4

theorem magnitude_of_rank_eq_zero {x : Binary64} (h : x.rank = 0) : x.magnitude = 0 := by
  rw [magnitude, units_eq_zero_iff.mpr h, Nat.cast_zero, zero_div]

/-- A number rounds to a double of no opposite sign if its magnitude lies in the interval around
the magnitude of the double. -/
theorem nearest_of_reads {x : Binary64} {q : ℚ} (h : x.Reads (quarterUnits |q|))
    (hsign : 0 ≤ q * x.value) : Nearest q x := by
  have hsame : |q - x.value| ≤ |(|q| - x.magnitude)| := by
    rw [← abs_value]
    exact abs_sub_le_abs_iff.mpr hsign
  have hfar : ∀ y : Binary64, |(|q| - y.magnitude)| ≤ |q - y.value| := by
    intro y
    rw [← abs_value]
    exact abs_abs_sub_abs_le q y.value
  constructor
  · intro y _
    exact hsame.trans ((abs_sub_magnitude_le_iff.mpr (h.closest y.rank).1).trans (hfar y))
  · intro y _ hvalue htie
    refine (h.closest y.rank).2 ?_
      (abs_sub_magnitude_le_iff.mp ((hfar y).trans (htie.le.trans hsame)))
    intro hrank
    -- another value of the same magnitude is the negative one, and zero would be nearer than both
    have hmagnitude : |y.value| = |x.value| := by
      rw [abs_value, abs_value, magnitude_eq_of_rank_eq hrank]
    rcases abs_eq_abs.mp hmagnitude with heq | hneg
    · exact hvalue heq
    · rw [hneg] at htie
      rcases mul_eq_zero.mp (mul_eq_zero_of_abs_sub_neg htie) with hq | hx
      · rw [hq, abs_zero, quarterUnits, zero_mul] at h
        have hzero := magnitude_of_rank_eq_zero h.rank_eq_zero
        rw [← abs_value, abs_eq_zero] at hzero
        rw [hneg, hzero, neg_zero] at hvalue
        exact hvalue rfl
      · rw [hneg, hx, neg_zero] at hvalue
        exact hvalue rfl

/-- A double of the sign of `q` is as far from it as their magnitudes are. -/
theorem abs_sub_value_signedAt (q : ℚ) {k : Nat} (h : k ≤ 2047 * 2 ^ 52) :
    |q - (signedAt (decide (q < 0)) k).value| ≤
      |(|q| - (signedAt (decide (q < 0)) k).magnitude)| := by
  rw [← abs_value, abs_sub_le_abs_iff]
  have hmagnitude := (signedAt (decide (q < 0)) k).magnitude_nonneg
  rw [value, isNegative_signedAt _ h]
  by_cases hq : q < 0
  · rw [if_pos (decide_eq_true hq)]
    exact mul_nonneg_of_nonpos_of_nonpos hq.le (neg_nonpos.mpr hmagnitude)
  · rw [if_neg (by simpa using hq)]
    exact mul_nonneg (not_lt.mp hq) hmagnitude

/-- Conversely the magnitude of a number that rounds to a finite double lies in the interval around
the magnitude of the double, and their signs are not opposite. -/
theorem reads_of_nearest {x : Binary64} {q : ℚ} (hx : x.isFinite = true) (h : Nearest q x) :
    x.Reads (quarterUnits |q|) ∧ 0 ≤ q * x.value := by
  have hrank := rank_lt_of_isFinite hx
  have hfar : |(|q| - x.magnitude)| ≤ |q - x.value| := by
    rw [← abs_value]
    exact abs_abs_sub_abs_le q x.value
  have hplace : ∀ k ≤ x.rank + 1, |q - x.value| ≤ |q - (signedAt (decide (q < 0)) k).value| :=
    fun k hk => h.closest _ (isNaN_signedAt _ (by omega))
  constructor
  · refine reads_of_closest (quarterUnits_nonneg (abs_nonneg q)) fun k hk => ?_
    have hk' : k ≤ 2047 * 2 ^ 52 := by omega
    have hnear := (hplace k hk).trans (abs_sub_value_signedAt q hk')
    rw [← rank_signedAt (decide (q < 0)) hk']
    refine ⟨abs_sub_magnitude_le_iff.mp (hfar.trans hnear), fun hne htie => ?_⟩
    have hback := abs_sub_magnitude_le_iff.mpr htie.le
    refine h.even _ (isNaN_signedAt _ hk') ?_
      (le_antisymm ((abs_sub_value_signedAt q hk').trans (hback.trans hfar)) (hplace k hk))
    intro hvalue
    refine hne (rank_eq_of_magnitude_eq ?_)
    rw [← abs_value, hvalue, abs_value]
  · have hk : x.rank ≤ 2047 * 2 ^ 52 := hrank.le
    have hnear := (hplace x.rank (Nat.le_succ _)).trans (abs_sub_value_signedAt q hk)
    rw [magnitude_eq_of_rank_eq (rank_signedAt _ hk), ← abs_value] at hnear
    exact abs_sub_le_abs_iff.mp hnear

/-- A number rounds to one finite value. -/
theorem Nearest.unique {x y : Binary64} {q : ℚ} (hx : x.isFinite = true) (hy : y.isFinite = true)
    (hqx : Nearest q x) (hqy : Nearest q y) : x.value = y.value := by
  obtain ⟨hreads_x, hsign_x⟩ := reads_of_nearest hx hqx
  obtain ⟨hreads_y, hsign_y⟩ := reads_of_nearest hy hqy
  have hmagnitude : |x.value| = |y.value| := by
    rw [abs_value, abs_value, magnitude_eq_of_rank_eq (rank_eq_of_reads hreads_x hreads_y)]
  rcases abs_eq_abs.mp hmagnitude with heq | hneg
  · exact heq
  -- values of opposite signs are both as far from `q`, which is zero then, and so are they
  · have hproduct : q * y.value = 0 := by
      rw [hneg, mul_neg] at hsign_x
      linarith
    rcases mul_eq_zero.mp hproduct with hq | hvalue
    · rw [hq, abs_zero, quarterUnits, zero_mul] at hreads_y
      have hzero := magnitude_of_rank_eq_zero hreads_y.rank_eq_zero
      rw [← abs_value, abs_eq_zero] at hzero
      rw [hneg, hzero, neg_zero]
    · rw [hneg, hvalue, neg_zero]

end Conformance.Binary64
