import Conformance.Cell
import Conformance.Proofs.Number.Plain

set_option autoImplicit false

/-!
# Numbers as identifiers

What a number cell shows is a plain numeral that rounds to the number (`nearest_of_text`), so that
two finite numbers show the same text only if they are equal (`shown_identifies`).
-/

namespace Conformance

namespace Binary64

variable {x y : Binary64}

/-- The decimal that is written for a magnitude. -/
def written (x : Binary64) : Decimal :=
  if x.isIntegral && x.wholePart < integerLimit then ⟨x.wholePart, 0⟩ else x.shortest

theorem positional_written (x : Binary64) : x.written.positional = x.magnitudeNumeral := by
  rw [written, magnitudeNumeral]
  split
  · exact List.append_nil _
  · rfl

theorem isIntegral_of_units_eq_zero (hx : x.isFinite = true) (h : x.units = 0) :
    x.isIntegral = true := by
  rw [isIntegral, hx, h, Nat.zero_mod]
  rfl

theorem wholePart_of_units_eq_zero (h : x.units = 0) : x.wholePart = 0 := by
  rw [wholePart, h, Nat.zero_div]

/-- What is written reads back, be it a whole number or the shortest decimal. -/
theorem readsDecimal_written (hx : x.isFinite = true) : x.ReadsDecimal x.written := by
  rw [written]
  split
  · next hwhole =>
    rw [Bool.and_eq_true] at hwhole
    have hunits : (x.wholePart * unitsPerOne : ℚ) = unitsAt x.rank := by
      rw [← units_eq_unitsAt]
      exact_mod_cast wholePart_mul_of_isIntegral hwhole.1
    have hexact : quarterUnits (Decimal.value ⟨x.wholePart, 0⟩) = 4 * unitsAt x.rank := by
      rw [quarterUnits, Decimal.value, zpow_zero, ← hunits]
      ring
    rw [ReadsDecimal, hexact]
    exact x.reads_units
  · next hwhole =>
    refine readsDecimal_shortest fun hrank => hwhole ?_
    have hunits := units_eq_zero_iff.mpr hrank
    rw [isIntegral_of_units_eq_zero hx hunits, wholePart_of_units_eq_zero hunits]
    rfl

/-- The text of a finite number as a plain numeral. -/
theorem exists_plain_numeral (hx : x.isFinite = true) : ∃ n : PlainNumeral,
    n.text = x.numeral ∧ n.negative = (x.isNegative && x.units != 0) ∧
      n.magnitude = x.written.value := by
  obtain ⟨n, hnegative, hchars, hmagnitude⟩ := x.written.exists_plain_positional
  refine ⟨n.withSign (x.isNegative && x.units != 0), ?_, rfl, hmagnitude⟩
  have hunsigned : n.whole ++ n.pointChars = x.magnitudeNumeral := by
    rw [← positional_written, ← hchars, PlainNumeral.chars, PlainNumeral.signChars, hnegative]
    rfl
  rw [numeral, if_pos hx, ← hunsigned]
  rfl

/-- The text says which numeral it is. -/
theorem eq_of_text {n : PlainNumeral} (hx : x.isFinite = true) (h : n.text = x.numeral) :
    n.negative = (x.isNegative && x.units != 0) ∧ n.magnitude = x.written.value := by
  obtain ⟨m, htext, hvalue⟩ := exists_plain_numeral hx
  obtain rfl := PlainNumeral.text_injective (h.trans htext.symm)
  exact hvalue

/-- The sign is written for every negative number that is not zero. -/
theorem mul_value_nonneg {n : PlainNumeral} (h : n.negative = (x.isNegative && x.units != 0)) :
    0 ≤ n.value * x.value := by
  have hproduct := mul_nonneg n.magnitude_nonneg x.magnitude_nonneg
  rw [PlainNumeral.value, value, h]
  cases x.isNegative with
  | false => exact hproduct
  | true =>
    by_cases hzero : x.units = 0
    · rw [magnitude_of_rank_eq_zero (units_eq_zero_iff.mp hzero)]
      simp
    · simpa [hzero] using hproduct

/-- A plain numeral with the text of a finite number rounds to the number. -/
theorem nearest_of_text {n : PlainNumeral} (hx : x.isFinite = true) (h : n.text = x.numeral) :
    Nearest n.value x := by
  obtain ⟨hnegative, hmagnitude⟩ := eq_of_text hx h
  refine nearest_of_reads ?_ (mul_value_nonneg hnegative)
  rw [PlainNumeral.abs_value, hmagnitude]
  exact readsDecimal_written hx

theorem numeral_of_units_eq_zero (hx : x.isFinite = true) (h : x.units = 0) :
    x.numeral = "0" := by
  rw [numeral, if_pos hx, signChars, h, magnitudeNumeral, isIntegral_of_units_eq_zero hx h,
    wholePart_of_units_eq_zero h]
  simp [integerLimit]

/-! ## Equal texts -/

theorem value_eq_zero_iff : x.value = 0 ↔ x.units = 0 := by
  rw [← abs_eq_zero, abs_value, magnitude, div_eq_zero_iff, or_iff_left cast_unitsPerOne_pos.ne',
    Nat.cast_eq_zero]

/-- The sign and the place of the magnitude are all that a double has. -/
theorem eq_of_rank_eq (hsign : x.isNegative = y.isNegative) (hrank : x.rank = y.rank) : x = y := by
  have hx := x.bits.toNat_lt
  have hy := y.bits.toNat_lt
  rw [isNegative, isNegative, decide_eq_decide, Nat.pow_eq] at hsign
  rw [rank, rank] at hrank
  have hbits : x.bits.toNat = y.bits.toNat := by omega
  exact congrArg Binary64.mk (UInt64.toNat_inj.mp hbits)

/-- Numbers of equal value have the same bits, unless they are the two zeros. -/
theorem eq_of_value_eq (h : x.value = y.value) (hne : x.value ≠ 0) : x = y := by
  have hmagnitude : x.magnitude = y.magnitude := by rw [← abs_value, h, abs_value]
  refine eq_of_rank_eq ?_ (rank_eq_of_magnitude_eq hmagnitude)
  rw [value, value, ← hmagnitude] at h
  rw [Ne, ← abs_eq_zero, abs_value] at hne
  cases hx : x.isNegative <;> cases hy : y.isNegative
  · rfl
  · exact absurd (self_eq_neg.mp (by simpa [hx, hy] using h)) hne
  · exact absurd (neg_eq_self.mp (by simpa [hx, hy] using h)) hne
  · rfl

/-- Finite numbers have the same text if and only if they are equal as numbers. -/
theorem numeral_eq_iff (hx : x.isFinite = true) (hy : y.isFinite = true) :
    x.numeral = y.numeral ↔ x.value = y.value := by
  constructor
  · intro h
    obtain ⟨n, htext, -⟩ := exists_plain_numeral hx
    exact (nearest_of_text hx htext).unique hx hy (nearest_of_text hy (htext.trans h))
  · intro h
    by_cases hzero : x.value = 0
    · rw [numeral_of_units_eq_zero hx (value_eq_zero_iff.mp hzero),
        numeral_of_units_eq_zero hy (value_eq_zero_iff.mp (h.symm.trans hzero))]
    · rw [eq_of_value_eq h hzero]

theorem trim_numeral (hx : x.isFinite = true) : Text.trim x.numeral = x.numeral := by
  obtain ⟨n, htext, -⟩ := exists_plain_numeral hx
  rw [← htext, PlainNumeral.trim_text]

end Binary64

namespace Cell

open Binary64

/-- A finite number is shown as a plain numeral that rounds to it, zero without a sign.  So two such
cells show the same text if and only if they hold equal numbers, and the same is true of what is
read from them, as the identifier of a step or anything else. -/
theorem shown_identifies :
    (∀ x : Binary64, x.isFinite = true → ∃ n : PlainNumeral,
      (Cell.number x).shown = n.text ∧ Nearest n.value x ∧ (x.value = 0 → n.text = "0")) ∧
    (∀ x y : Binary64, x.isFinite = true → y.isFinite = true →
      ((Cell.number x).shown = (Cell.number y).shown ↔ x.value = y.value)) ∧
    ∀ (x y : Binary64) (r s : Row) (i j : Nat), x.isFinite = true → y.isFinite = true →
      r.cell i = .number x → s.cell j = .number y →
        (r.field i = s.field j ↔ x.value = y.value) := by
  refine ⟨?_, ?_, ?_⟩
  · intro x hx
    obtain ⟨n, htext, -⟩ := exists_plain_numeral hx
    refine ⟨n, htext.symm, nearest_of_text hx htext, fun hzero => ?_⟩
    rw [htext, numeral_of_units_eq_zero hx (value_eq_zero_iff.mp hzero)]
  · intro x y hx hy
    exact numeral_eq_iff hx hy
  · intro x y r s i j hx hy hr hs
    rw [Row.field, Row.field, hr, hs, shown, shown, trim_numeral hx, trim_numeral hy]
    exact numeral_eq_iff hx hy

/-- The double nearest to a tenth. -/
def tenth : Binary64 := ⟨0x3FB999999999999A⟩

/-- The smallest number above zero. -/
def smallest : Binary64 := ⟨1⟩

theorem tenth_identifies :
    tenth.isFinite = true ∧ smallest.isFinite = true ∧
      (∃ n : PlainNumeral, (Cell.number tenth).shown = n.text ∧ Nearest n.value tenth) ∧
      ((Cell.number tenth).shown = (Cell.number smallest).shown ↔ tenth.value = smallest.value) ∧
      (Row.field [.number tenth] 0 = Row.field [.empty, .number smallest] 1 ↔
        tenth.value = smallest.value) := by
  have htenth : tenth.isFinite = true := by decide
  have hsmallest : smallest.isFinite = true := by decide
  obtain ⟨n, hshown, hnearest, -⟩ := shown_identifies.1 tenth htenth
  exact ⟨htenth, hsmallest, ⟨n, hshown, hnearest⟩,
    shown_identifies.2.1 tenth smallest htenth hsmallest,
    shown_identifies.2.2 tenth smallest _ _ 0 1 htenth hsmallest rfl rfl⟩

end Cell

end Conformance
