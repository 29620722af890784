import Conformance.Proofs.Number.Identity
import Mathlib.Data.Nat.Factorization.Basic

set_option autoImplicit false

/-!
# Whole numbers

Below `2 ^ 53` doubles are at most one apart, so that a whole number is the only one in its interval
(`reads_natCast_iff`).  Its shortest decimal is the number without the zeros at its end, and
the positional form puts them back (`positional_shortest`).  So it makes no difference whether a
whole number is written as an integer or through its shortest decimal (`whole_shown`).
-/

namespace Conformance

/-- Zeros behind a numeral multiply it by ten. -/
theorem toDigits_mul_pow {n : Nat} (h : 0 < n) (zeros : Nat) :
    Nat.toDigits 10 (n * 10 ^ zeros) = Nat.toDigits 10 n ++ List.replicate zeros '0' := by
  induction zeros with
  | zero => simp
  | succ zeros ih =>
    have hpos : 0 < n * 10 ^ zeros := by positivity
    have hshift := Nat.toDigits_append_toDigits (b := 10) (d := 0) (by decide) hpos (by decide)
    rw [Nat.add_zero, Nat.toDigits_zero] at hshift
    rw [pow_succ, ← mul_assoc, mul_comm _ 10, ← hshift, ih, List.append_assoc,
      ← List.replicate_succ']

theorem toList_toString (n : Int) :
    (toString n).toList = (if n < 0 then ['-'] else []) ++ Nat.toDigits 10 n.natAbs := by
  cases n with
  | ofNat n =>
    rw [if_neg (by simp), List.nil_append, Int.natAbs_ofNat', ← Nat.toList_repr]
    rfl
  | negSucc n =>
    rw [if_pos (Int.negSucc_lt_zero n), Int.natAbs_negSucc, ← Nat.toList_repr]
    exact String.toList_append

namespace Binary64

variable {x : Binary64} {m : Nat}

/-! ## The shortest decimal of a whole number -/

theorem gapAt_le_unitsPerOne {k : Nat} (h : unitsAt k < 2 ^ 53 * unitsPerOne) :
    gapAt k ≤ unitsPerOne := by
  by_cases hfield : k / 2 ^ 52 = 0
  · rw [gapAt, hfield]
    exact unitsPerOne_pos
  · have hunits : 2 ^ 52 * gapAt k ≤ unitsAt k := by
      rw [unitsAt, if_neg hfield]
      exact Nat.mul_le_mul_right _ (Nat.le_add_right _ _)
    have hless : gapAt k < 2 * unitsPerOne := by omega
    -- both are powers of two
    obtain ⟨n, hn⟩ : ∃ n, unitsPerOne = 2 ^ n := ⟨1074, by decide +kernel⟩
    rw [hn, gapAt, ← pow_succ', Nat.pow_lt_pow_iff_right (by decide)] at hless
    rw [hn, gapAt]
    exact Nat.pow_le_pow_right (by decide) (Nat.lt_succ_iff.mp hless)

/-- Up to `2 ^ 53` the next double is at most one away. -/
theorem cast_unitsAt_succ_le {k : Nat} (h : unitsAt k < 2 ^ 53 * unitsPerOne) :
    (unitsAt (k + 1) : ℚ) ≤ unitsAt k + unitsPerOne := by
  have hgap : (gapAt k : ℚ) ≤ unitsPerOne := by exact_mod_cast gapAt_le_unitsPerOne h
  rw [cast_unitsAt_succ]
  linarith

/-- Where the whole numbers lie. -/
theorem quarterUnits_natCast (n : Nat) : quarterUnits n = 4 * (n * unitsPerOne) := by
  rw [quarterUnits]
  ring

theorem cast_mul_unitsPerOne_le {a b : Nat} (h : a < b) :
    (a * unitsPerOne + unitsPerOne : ℚ) ≤ b * unitsPerOne := by
  have hnext : (a + 1 : ℚ) ≤ b := by exact_mod_cast h
  have hmul := mul_le_mul_of_nonneg_right hnext cast_unitsPerOne_pos.le
  rwa [add_mul, one_mul] at hmul

/-- Of the whole numbers only the number itself lies in its interval, since the interval ends before
the neighbours of the number, and whole numbers are one apart. -/
theorem reads_natCast_iff (hunits : x.units = m * unitsPerOne) (hm : m < 2 ^ 53) (n : Nat) :
    x.Reads (quarterUnits n) ↔ n = m := by
  have hrank : unitsAt x.rank = m * unitsPerOne := by rw [← units_eq_unitsAt, hunits]
  have hcast : (unitsAt x.rank : ℚ) = m * unitsPerOne := by exact_mod_cast hrank
  have hsmall : unitsAt x.rank < 2 ^ 53 * unitsPerOne := by
    rw [hrank]
    exact Nat.mul_lt_mul_of_pos_right hm unitsPerOne_pos
  rw [quarterUnits_natCast]
  constructor
  · intro hreads
    rcases Nat.lt_trichotomy n m with hlt | heq | hlt
    · obtain ⟨k, hk⟩ : ∃ k, x.rank = k + 1 := by
        refine Nat.exists_eq_succ_of_ne_zero fun hzero => ?_
        rw [hzero, unitsAt_zero, eq_comm, Nat.mul_eq_zero] at hrank
        exact hrank.elim (by omega) unitsPerOne_pos.ne'
      have hstep := cast_unitsAt_succ_le ((unitsAt_strictMono (by omega : k < x.rank)).trans hsmall)
      have hprevious := hreads.previous_lt hk
      have hfar := cast_mul_unitsPerOne_le hlt
      rw [← hk] at hstep
      linarith
    · exact heq
    · have hstep := cast_unitsAt_succ_le hsmall
      have hnext := hreads.lt_next
      have hfar := cast_mul_unitsPerOne_le hlt
      linarith
  · rintro rfl
    rw [← hcast]
    exact x.reads_units

theorem readsDecimal_natCast_iff (hunits : x.units = m * unitsPerOne) (hm : m < 2 ^ 53)
    (n k : Nat) : x.ReadsDecimal ⟨n, k⟩ ↔ n * 10 ^ k = m := by
  have hvalue : Decimal.value ⟨n, k⟩ = (n * 10 ^ k : Nat) := by
    rw [Decimal.value, zpow_natCast]
    push_cast
    rfl
  rw [ReadsDecimal, hvalue, reads_natCast_iff hunits hm]

/-- The shortest decimal of a whole number is the number without the zeros at its end. -/
theorem shortest_eq_of_whole {digits zeros : Nat}
    (hunits : x.units = digits * 10 ^ zeros * unitsPerOne) (hdigits : ¬ 10 ∣ digits)
    (hm : digits * 10 ^ zeros < 2 ^ 53) : x.shortest = ⟨digits, zeros⟩ := by
  have hpos : 0 < digits := Nat.pos_of_ne_zero fun hzero => hdigits (hzero ▸ dvd_zero 10)
  have hrank : x.rank ≠ 0 := by
    rw [Ne, ← units_eq_zero_iff, hunits]
    exact (Nat.mul_pos (Nat.mul_pos hpos (by positivity)) unitsPerOne_pos).ne'
  have hzeros : zeros < 16 := by
    rw [← Nat.pow_lt_pow_iff_right (by decide : 1 < 10)]
    calc 10 ^ zeros ≤ digits * 10 ^ zeros := Nat.le_mul_of_pos_left _ hpos
      _ < 10 ^ 16 := hm.trans (by decide)
  have hreads := readsDecimal_natCast_iff hunits hm
  rw [shortest_eq_iff hrank]
  refine ⟨mem_gridExponents.mpr (by constructor <;> simp only <;> omega), ?_, ?_⟩
  · cases hpoint : x.gridPoint? zeros with
    | none => exact absurd ((hreads _ _).mpr rfl) (gridPoint?_eq_none_iff.mp hpoint digits)
    | some n =>
      have hn := (hreads _ _).mp (readsDecimal_of_gridPoint? hpoint)
      rw [Nat.mul_left_inj (by positivity)] at hn
      rw [hn]
  -- a coarser grid would divide the number by ten once more
  · intro k hk hlt
    obtain ⟨more, rfl⟩ : ∃ more : Nat, k = (zeros + 1 + more : Nat) :=
      ⟨(k - zeros - 1).toNat, by simp only at hlt; omega⟩
    rw [gridPoint?_eq_none_iff]
    intro n hn
    have hwhole : digits * 10 ^ zeros = 10 * (n * 10 ^ more) * 10 ^ zeros := by
      rw [← (hreads _ _).mp hn]
      ring
    exact hdigits ⟨_, Nat.eq_of_mul_eq_mul_right (by positivity) hwhole⟩

/-- Written out, the shortest decimal of a whole number is its numeral. -/
theorem positional_shortest (hunits : x.units = m * unitsPerOne) (hpos : 0 < m) (hm : m < 2 ^ 53) :
    x.shortest.positional = Nat.toDigits 10 m := by
  obtain ⟨zeros, digits, hdigits, rfl⟩ := Nat.exists_eq_pow_mul_and_not_dvd hpos.ne' 10 (by decide)
  rw [mul_comm (10 ^ zeros)] at hunits hpos hm ⊢
  rw [shortest_eq_of_whole hunits hdigits hm, toDigits_mul_pow (Nat.pos_of_mul_pos_right hpos)]
  rfl

/-! ## The two ways to write a number -/

/-- The integer next to a number towards zero. -/
def truncated (x : Binary64) : Int := if x.isNegative then -x.wholePart else x.wholePart

/-- The number as a 64-bit integer: the part behind the point is dropped, and numbers out of range
go to the nearest end of it. -/
def toInt64 (x : Binary64) : Int64 := if x.isNaN then 0 else Int64.ofIntClamp x.truncated

/-- The numeral of a finite number without a case for whole numbers: the shortest decimal behind a
sign, which zero has as well. -/
def display (x : Binary64) : String :=
  String.ofList ((if x.isNegative then ['-'] else []) ++
    if x.units = 0 then ['0'] else x.shortest.positional)

/-- Zero with its sign bit set. -/
def negativeZero : Binary64 := ⟨0x8000000000000000⟩

/-- A double whose value is a whole number. -/
structure IsWhole (x : Binary64) (n : Int) : Prop where
  finite : x.isFinite = true
  value_eq : x.value = n

namespace IsWhole

variable {n : Int}

theorem units_eq (h : x.IsWhole n) : x.units = n.natAbs * unitsPerOne := by
  have hmagnitude : x.magnitude = n.natAbs := by
    rw [← abs_value, h.value_eq, Nat.cast_natAbs, Int.cast_abs]
  rw [magnitude, div_eq_iff cast_unitsPerOne_pos.ne'] at hmagnitude
  exact_mod_cast hmagnitude

theorem units_eq_zero_iff (h : x.IsWhole n) : x.units = 0 ↔ n = 0 := by
  rw [h.units_eq, Nat.mul_eq_zero, or_iff_left unitsPerOne_pos.ne', Int.natAbs_eq_zero]

theorem wholePart_eq (h : x.IsWhole n) : x.wholePart = n.natAbs := by
  rw [wholePart, h.units_eq, Nat.mul_div_cancel _ unitsPerOne_pos]

theorem isIntegral (h : x.IsWhole n) : x.isIntegral = true := by
  rw [Binary64.isIntegral, h.finite, h.units_eq, Nat.mul_mod_left]
  rfl

/-- Of the whole numbers with a sign bit only zero is not negative. -/
theorem isNegative_iff (h : x.IsWhole n) (hn : n ≠ 0) : x.isNegative = true ↔ n < 0 := by
  have hvalue := h.value_eq
  have hmagnitude := x.magnitude_nonneg
  rw [value] at hvalue
  split at hvalue
  · next hsign =>
    have hle : (n : ℚ) ≤ 0 := by linarith
    exact iff_of_true hsign (lt_of_le_of_ne (by exact_mod_cast hle) hn)
  · next hsign =>
    have hge : (0 : ℚ) ≤ n := by linarith
    exact iff_of_false hsign (not_lt.mpr (by exact_mod_cast hge))

theorem truncated_eq (h : x.IsWhole n) : x.truncated = n := by
  rw [truncated, h.wholePart_eq]
  by_cases hn : n = 0
  · rw [hn]
    simp
  · simp only [h.isNegative_iff hn]
    split <;> omega

/-- Whole numbers within the range are cast to themselves. -/
theorem toInt_toInt64 (h : x.IsWhole n) (hn : |n| < 2 ^ 63) : x.toInt64.toInt = n := by
  have hnan : x.isNaN = false := by
    rw [isNaN, beq_eq_false_iff_ne.mpr (bne_iff_ne.mp h.finite), Bool.false_and]
  obtain ⟨hlower, hupper⟩ := abs_lt.mp hn
  rw [toInt64, hnan, h.truncated_eq]
  refine Int64.toInt_ofIntClamp ?_ ?_
  · exact hlower.le
  · exact Int.le_sub_one_of_lt hupper

theorem signChars_eq (h : x.IsWhole n) : x.signChars = if n < 0 then ['-'] else [] := by
  have hunits := h.units_eq_zero_iff
  rw [signChars]
  by_cases hn : n = 0
  · simp [hunits.mpr hn, hn]
  · have hsign := h.isNegative_iff hn
    simp [mt hunits.mp hn, hsign]

theorem positional_shortest_eq (h : x.IsWhole n) (hn : |n| < 2 ^ 53) (hzero : n ≠ 0) :
    x.shortest.positional = Nat.toDigits 10 n.natAbs := by
  rw [← Int.natCast_natAbs] at hn
  exact positional_shortest h.units_eq (Int.natAbs_pos.mpr hzero) (by exact_mod_cast hn)

/-- Below `2 ^ 53` the digits are those of the integer on both sides of the limit. -/
theorem magnitudeNumeral_eq (h : x.IsWhole n) (hn : |n| < 2 ^ 53) :
    x.magnitudeNumeral = Nat.toDigits 10 n.natAbs := by
  rw [magnitudeNumeral, h.isIntegral, h.wholePart_eq]
  split
  · rfl
  · next hlarge =>
    refine h.positional_shortest_eq hn ?_
    rintro rfl
    exact hlarge rfl

theorem numeral_eq (h : x.IsWhole n) (hn : |n| < 2 ^ 53) : x.numeral = toString n := by
  rw [numeral, if_pos h.finite, h.signChars_eq, h.magnitudeNumeral_eq hn, ← toList_toString,
    String.ofList_toList]

/-- The shortest decimal is written as the integer is, but for the sign of zero. -/
theorem display_eq (h : x.IsWhole n) (hn : |n| < 2 ^ 53) (hx : x ≠ negativeZero) :
    x.display = toString n := by
  have hunits := h.units_eq_zero_iff
  by_cases hzero : n = 0
  · have hsign : x.isNegative = false := by
      rw [← Bool.not_eq_true]
      intro hnegative
      exact hx (eq_of_rank_eq hnegative (Binary64.units_eq_zero_iff.mp (hunits.mpr hzero)))
    rw [display, hsign, if_pos (hunits.mpr hzero), hzero]
    rfl
  · rw [display, if_neg (mt hunits.mp hzero), h.positional_shortest_eq hn hzero]
    simp only [h.isNegative_iff hzero]
    rw [← toList_toString, String.ofList_toList]

theorem toString_toInt64 (h : x.IsWhole n) (hn : |n| < 2 ^ 63) : toString x.toInt64 = toString n :=
  congrArg toString (h.toInt_toInt64 hn)

end IsWhole

/-- A number without anything behind the point is the integer next to it towards zero. -/
theorem isWhole_truncated (h : x.isIntegral = true) : x.IsWhole x.truncated := by
  have hmagnitude : x.magnitude = x.wholePart := by
    rw [magnitude, div_eq_iff cast_unitsPerOne_pos.ne']
    exact_mod_cast (wholePart_mul_of_isIntegral h).symm
  refine ⟨(Bool.and_eq_true_iff.mp h).1, ?_⟩
  rw [value, truncated, hmagnitude]
  split
  · push_cast
    rfl
  · push_cast
    rfl

theorem abs_truncated (x : Binary64) : |x.truncated| = x.wholePart :=
  abs_signed (Int.natCast_nonneg _) x.isNegative

/-- A finite number is written as a 64-bit integer below the limit if it is whole, and otherwise
displayed. -/
theorem numeral_eq_ite (hx : x.isFinite = true) :
    x.numeral =
      if x.isIntegral && x.wholePart < integerLimit then toString x.toInt64 else x.display := by
  split
  · next hwhole =>
    rw [Bool.and_eq_true, decide_eq_true_eq, integerLimit, Nat.pow_eq] at hwhole
    have htruncated := isWhole_truncated hwhole.1
    have habs := x.abs_truncated
    rw [htruncated.toString_toInt64 (by omega), htruncated.numeral_eq (by omega)]
  · next hwhole =>
    have hunits : x.units ≠ 0 := by
      intro hzero
      rw [isIntegral_of_units_eq_zero hx hzero, wholePart_of_units_eq_zero hzero] at hwhole
      exact hwhole rfl
    rw [numeral, if_pos hx, signChars, magnitudeNumeral, if_neg hwhole, display, if_neg hunits,
      bne_iff_ne.mpr hunits, Bool.and_true]

end Binary64

namespace Cell

open Binary64

/-- The digits that are displayed are the fewest that round to the number.  A finite number is shown
as a 64-bit integer if it is whole and below `10 ^ 15`, and displayed otherwise.  Below the limit
the cast is exact, and the two ways differ for the negative zero only.  So below `2 ^ 53` every
whole number is shown as the integer it is. -/
theorem whole_shown :
    (∀ x : Binary64, x.isFinite = true → x.units ≠ 0 → x.IsShortest x.shortest) ∧
    (∀ x : Binary64, x.isFinite = true → (Cell.number x).shown =
      if x.isIntegral && x.wholePart < integerLimit then toString x.toInt64 else x.display) ∧
    (∀ (x : Binary64) (n : Int), x.IsWhole n → |n| < 10 ^ 15 → x ≠ negativeZero →
      x.toInt64.toInt = n ∧ toString x.toInt64 = x.display) ∧
    ∀ (x : Binary64) (n : Int), x.IsWhole n → |n| < 2 ^ 53 →
      (Cell.number x).shown = toString n := by
  refine ⟨?_, ?_, ?_, ?_⟩
  · intro x hx hunits
    exact shortest_isShortest hx (mt units_eq_zero_iff.mpr hunits)
  · intro x hx
    exact numeral_eq_ite hx
  · intro x n h hn hx
    have hword : |n| < 2 ^ 63 := hn.trans (by decide)
    refine ⟨h.toInt_toInt64 hword, ?_⟩
    rw [h.toString_toInt64 hword, h.display_eq (hn.trans (by decide)) hx]
  · intro x n h hn
    exact h.numeral_eq hn

/-- A whole number below the limit. -/
def minusTwelveHundred : Binary64 := ⟨0xC092C00000000000⟩

/-- A whole number past the limit, `2 * 10 ^ 15`. -/
def pastLimit : Binary64 := ⟨0x431C6BF526340000⟩

theorem isWhole_minusTwelveHundred : minusTwelveHundred.IsWhole (-1200) := by
  have htruncated : minusTwelveHundred.truncated = -1200 := by decide +kernel
  rw [← htruncated]
  exact isWhole_truncated (by decide +kernel)

theorem isWhole_pastLimit : pastLimit.IsWhole 2000000000000000 := by
  have htruncated : pastLimit.truncated = 2000000000000000 := by decide +kernel
  rw [← htruncated]
  exact isWhole_truncated (by decide +kernel)

theorem minusTwelveHundred_shown :
    minusTwelveHundred.IsShortest minusTwelveHundred.shortest ∧
      (Cell.number minusTwelveHundred).shown = toString minusTwelveHundred.toInt64 ∧
      minusTwelveHundred.toInt64.toInt = -1200 ∧
      toString minusTwelveHundred.toInt64 = minusTwelveHundred.display ∧
      (Cell.number pastLimit).shown = pastLimit.display ∧
      (Cell.number pastLimit).shown = "2000000000000000" := by
  obtain ⟨hcast, hdisplay⟩ :=
    whole_shown.2.2.1 minusTwelveHundred (-1200) isWhole_minusTwelveHundred (by decide) (by decide)
  have hshortest := whole_shown.1 minusTwelveHundred isWhole_minusTwelveHundred.finite
    (mt isWhole_minusTwelveHundred.units_eq_zero_iff.mp (by decide))
  have hbelow := whole_shown.2.1 minusTwelveHundred isWhole_minusTwelveHundred.finite
  have hpast := whole_shown.2.1 pastLimit isWhole_pastLimit.finite
  rw [if_pos (by decide +kernel)] at hbelow
  rw [if_neg (by decide +kernel)] at hpast
  exact ⟨hshortest, hbelow, hcast, hdisplay, hpast,
    whole_shown.2.2.2 pastLimit 2000000000000000 isWhole_pastLimit (by decide)⟩

end Cell

end Conformance
