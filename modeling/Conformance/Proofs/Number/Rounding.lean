import Conformance.Number.Rounding
import Conformance.Proofs.Number.Identity

set_option autoImplicit false

/-!
# Rounding

What a quotient is rounded to is the double nearest to it (`nearest_ofRatio`).  The significand is
the quotient counted in gaps of its binade and rounded to a whole number; a significand that reaches
`2 ^ 53` is the first of the next binade (`unitsAt_place`), and the quotient lies in the interval
around the magnitude at its place (`roundsTo_place`).  So the text of a number is rounded to the
number again (`value_ofRatio_of_text`).
-/

namespace Conformance

/-- Rounding moves by half of the divisor at most, and by less to an odd number. -/
theorem roundHalfEven_spec (n : Nat) {d : Nat} (hd : 0 < d) :
    2 * (roundHalfEven n d * d) ≤ 2 * n + d ∧ 2 * n ≤ 2 * (roundHalfEven n d * d) + d ∧
      (roundHalfEven n d % 2 ≠ 0 →
        2 * (roundHalfEven n d * d) < 2 * n + d ∧ 2 * n < 2 * (roundHalfEven n d * d) + d) := by
  have hdivision : n / d * d + n % d = n := by rw [Nat.mul_comm]; exact Nat.div_add_mod n d
  have hrest := Nat.mod_lt n hd
  have hnext : (n / d + 1) * d = n / d * d + d := Nat.succ_mul _ _
  unfold roundHalfEven
  simp only
  split
  · omega
  · split
    · rw [hnext]
      omega
    -- halfway between two whole numbers
    · rcases Nat.mod_two_eq_zero_or_one (n / d) with heven | hodd
      · rw [heven, Nat.add_zero]
        omega
      · rw [hodd, hnext]
        omega

theorem roundHalfEven_le {n d m : Nat} (hd : 0 < d) (h : n < m * d) : roundHalfEven n d ≤ m := by
  have hspec := (roundHalfEven_spec n hd).1
  by_contra hlt
  have hmul := Nat.mul_le_mul_right d (not_le.mp hlt)
  rw [Nat.succ_mul] at hmul
  omega

theorem le_roundHalfEven {n d m : Nat} (hd : 0 < d) (h : m * d ≤ n) : m ≤ roundHalfEven n d := by
  have hspec := (roundHalfEven_spec n hd).2.1
  by_contra hlt
  have hmul := Nat.mul_le_mul_right d (not_le.mp hlt)
  rw [Nat.succ_mul] at hmul
  omega

namespace Binary64

/-! ## Places -/

/-- A number of gaps belongs to a binade: not more than it holds, and not so few that they belong
to the binade below, if there is one. -/
structure InBinade (e r : Nat) : Prop where
  le : r ≤ 2 ^ 53
  ge : e = 0 ∨ 2 ^ 52 ≤ r

theorem unitsAt_place {e r : Nat} (h : InBinade e r) : unitsAt (e * 2 ^ 52 + r) = r * 2 ^ e := by
  obtain ⟨hle, hge⟩ := h
  rw [unitsAt, gapAt]
  rcases Nat.lt_or_ge r (2 ^ 52) with hsmall | hlarge
  · have he : e = 0 := by omega
    have hfield : (e * 2 ^ 52 + r) / 2 ^ 52 = 0 := by omega
    have hfraction : (e * 2 ^ 52 + r) % 2 ^ 52 = r := by omega
    rw [hfield, hfraction, if_pos rfl, he]
  · rcases Nat.lt_or_ge r (2 ^ 53) with hless | hmost
    · have hfield : (e * 2 ^ 52 + r) / 2 ^ 52 = e + 1 := by omega
      have hfraction : 2 ^ 52 + (e * 2 ^ 52 + r) % 2 ^ 52 = r := by omega
      rw [hfield, if_neg (Nat.succ_ne_zero e), hfraction, Nat.add_sub_cancel]
    -- the carry into the next binade
    · have hfield : (e * 2 ^ 52 + r) / 2 ^ 52 = e + 1 + 1 := by omega
      have hfraction : (e * 2 ^ 52 + r) % 2 ^ 52 = 0 := by omega
      have hr : r = 2 ^ 52 * 2 := by omega
      rw [hfield, if_neg (Nat.succ_ne_zero _), hfraction, Nat.add_sub_cancel, hr, pow_succ]
      ring

theorem two_pow_le_gapAt {e r : Nat} (h : e = 0 ∨ 2 ^ 52 ≤ r) :
    2 ^ e ≤ gapAt (e * 2 ^ 52 + r) := by
  rw [gapAt]
  exact Nat.pow_le_pow_right (by decide) (by omega)

/-- A number of quarter units lies in the interval around the magnitude at a place. -/
structure RoundsTo (t : ℚ) (k : Nat) : Prop where
  upper : t ≤ 4 * unitsAt k + 2 * gapAt k
  lower : ∀ j, k = j + 1 → (4 * unitsAt j + 2 * gapAt j : ℚ) ≤ t
  odd : k % 2 ≠ 0 → t < 4 * unitsAt k + 2 * gapAt k ∧
    ∀ j, k = j + 1 → (4 * unitsAt j + 2 * gapAt j : ℚ) < t

theorem RoundsTo.reads {x : Binary64} {t : ℚ} (h : RoundsTo t x.rank) (ht : 0 ≤ t) :
    x.Reads t := by
  have hupper : t ≤ x.upperEnd := by rw [cast_upperEnd]; exact h.upper
  cases hrank : x.rank with
  | zero => exact reads_of_rank_eq_zero hrank ht hupper
  | succ k =>
    have hlower : x.lowerEnd ≤ t := by rw [cast_lowerEnd hrank]; exact h.lower k hrank
    refine reads_of_between ⟨hlower, hupper⟩ fun hodd => ?_
    rw [Ne, even_significand_iff] at hodd
    obtain ⟨hless, hmore⟩ := h.odd hodd
    rw [cast_upperEnd, cast_lowerEnd hrank]
    exact ⟨(hmore k hrank).ne', hless.ne⟩

/-- A number of units is counted in the gaps of a binade and rounded to a whole number. -/
structure Counts (u : ℚ) (e r : Nat) : Prop where
  binade : InBinade e r
  /-- No number of a binade is less than the first power of two in it. -/
  normal : e = 0 ∨ (2 ^ 52 * 2 ^ e : ℚ) ≤ u
  below : (2 * (r * 2 ^ e) : ℚ) ≤ 2 * u + 2 ^ e
  above : 2 * u ≤ 2 * (r * 2 ^ e) + 2 ^ e
  odd : r % 2 ≠ 0 → (2 * (r * 2 ^ e) : ℚ) < 2 * u + 2 ^ e ∧ 2 * u < 2 * (r * 2 ^ e) + 2 ^ e

/-- The interval reaches at least half of the gap of the binade down, but for its first number: the
numbers of the binade all lie above that one. -/
theorem Counts.lowerEnd_le {u : ℚ} {e r j : Nat} (h : Counts u e r)
    (hj : e * 2 ^ 52 + r = j + 1) :
    (4 * unitsAt j + 2 * gapAt j : ℚ) ≤ 4 * (r * 2 ^ e) - 2 * 2 ^ e ∨
      (4 * unitsAt j + 2 * gapAt j : ℚ) < 4 * u := by
  have hplace := unitsAt_place h.binade
  rw [hj, unitsAt_succ] at hplace
  have hunits : (unitsAt j + gapAt j : ℚ) = r * 2 ^ e := by exact_mod_cast hplace
  have hpos : (0 : ℚ) < gapAt j := by exact_mod_cast gapAt_pos j
  by_cases hfirst : e ≠ 0 ∧ r = 2 ^ 52
  · obtain ⟨he, rfl⟩ := hfirst
    have hnormal := h.normal.resolve_left he
    push_cast at hunits
    right
    linarith
  · have hinside : e = 0 ∨ 2 ^ 52 ≤ r - 1 := by
      have hge := h.binade.ge
      omega
    have hbefore : j = e * 2 ^ 52 + (r - 1) := by omega
    have hgap : (2 ^ e : ℚ) ≤ gapAt j := by
      rw [hbefore]
      exact_mod_cast two_pow_le_gapAt hinside
    left
    linarith

theorem roundsTo_place {u : ℚ} {e r : Nat} (h : Counts u e r) :
    RoundsTo (4 * u) (e * 2 ^ 52 + r) := by
  have hunits : (unitsAt (e * 2 ^ 52 + r) : ℚ) = r * 2 ^ e := by
    exact_mod_cast unitsAt_place h.binade
  have hgap : (2 ^ e : ℚ) ≤ gapAt (e * 2 ^ 52 + r) := by
    exact_mod_cast two_pow_le_gapAt h.binade.ge
  constructor
  · have habove := h.above
    linarith
  · intro j hj
    have hbelow := h.below
    rcases h.lowerEnd_le hj with hlower | hlower
    · linarith
    · exact hlower.le
  · intro hodd
    obtain ⟨hbelow, habove⟩ := h.odd (by omega)
    refine ⟨by linarith, fun j hj => ?_⟩
    rcases h.lowerEnd_le hj with hlower | hlower
    · linarith
    · exact hlower

/-! ## Quotients -/

/-- The gap of the binade that holds a quotient, as a power of two. -/
theorem binade_of_quotient (n : Nat) {den : Nat} (hden : 0 < den) :
    n < 2 ^ 53 * (den * 2 ^ (fieldFor (n / den) - 1)) ∧
      (fieldFor (n / den) - 1 = 0 ∨ 2 ^ 52 * (den * 2 ^ (fieldFor (n / den) - 1)) ≤ n) := by
  have hgap : ∀ places e : Nat, 2 ^ places * (den * 2 ^ e) = 2 ^ (places + e) * den := by
    intro places e
    rw [pow_add]
    ring
  rw [hgap, hgap, ← Nat.div_lt_iff_lt_mul hden, ← Nat.le_div_iff_mul_le hden, fieldFor]
  generalize n / den = quotient
  constructor
  · exact Nat.lt_log2_self.trans_le (Nat.pow_le_pow_right (by decide) (by omega))
  · by_cases hzero : max 1 (quotient.log2 - 51) - 1 = 0
    · exact .inl hzero
    · have hne : quotient ≠ 0 := by
        rintro rfl
        exact hzero rfl
      have hplaces : 52 + (max 1 (quotient.log2 - 51) - 1) = quotient.log2 := by omega
      rw [hplaces]
      exact .inr (Nat.log2_self_le hne)

/-- The significand of a quotient is the quotient counted in gaps. -/
theorem counts_quotient (n : Nat) {den e : Nat} (hden : 0 < den)
    (hlt : n < 2 ^ 53 * (den * 2 ^ e)) (hge : e = 0 ∨ 2 ^ 52 * (den * 2 ^ e) ≤ n) :
    Counts (n / den) e (roundHalfEven n (den * 2 ^ e)) := by
  have hpos : 0 < den * 2 ^ e := Nat.mul_pos hden (Nat.two_pow_pos e)
  have hden' : (0 : ℚ) < den := by exact_mod_cast hden
  obtain ⟨hbelow, habove, hodd⟩ := roundHalfEven_spec n hpos
  have hle := roundHalfEven_le hpos hlt
  have hfirst := hge.imp_right fun h => le_roundHalfEven hpos h
  generalize roundHalfEven n (den * 2 ^ e) = r at hbelow habove hodd hle hfirst
  obtain ⟨u, hu⟩ : ∃ u : ℚ, (n : ℚ) / den = u := ⟨_, rfl⟩
  have hn : (n : ℚ) = u * den := by rw [← hu, div_mul_cancel₀ _ hden'.ne']
  -- what holds of the whole numbers is divided by the denominator
  have hle_of : ∀ {a b : ℚ}, a * den ≤ b * den → a ≤ b := fun h => le_of_mul_le_mul_right h hden'
  have hlt_of : ∀ {a b : ℚ}, a * den < b * den → a < b := fun h =>
    lt_of_mul_lt_mul_right h hden'.le
  rw [hu]
  refine ⟨⟨hle, hfirst⟩, hge.imp_right fun h => hle_of ?_, hle_of ?_, hle_of ?_, fun hr => ?_⟩
  · have hcast : (2 ^ 52 * (den * 2 ^ e) : ℚ) ≤ n := by exact_mod_cast h
    linarith
  · have hcast : (2 * (r * (den * 2 ^ e)) : ℚ) ≤ 2 * n + den * 2 ^ e := by exact_mod_cast hbelow
    linarith
  · have hcast : (2 * n : ℚ) ≤ 2 * (r * (den * 2 ^ e)) + den * 2 ^ e := by exact_mod_cast habove
    linarith
  · obtain ⟨hless, hmore⟩ := hodd hr
    have hless' : (2 * (r * (den * 2 ^ e)) : ℚ) < 2 * n + den * 2 ^ e := by exact_mod_cast hless
    have hmore' : (2 * n : ℚ) < 2 * (r * (den * 2 ^ e)) + den * 2 ^ e := by exact_mod_cast hmore
    exact ⟨hlt_of (by linarith), hlt_of (by linarith)⟩

/-! ## Doubles -/

theorem rank_le_of_isNaN {x : Binary64} (h : x.isNaN = false) : x.rank ≤ 2047 * 2 ^ 52 := by
  by_cases hx : x.isFinite = true
  · exact (rank_lt_of_isFinite hx).le
  · rw [isFinite, bne_iff_ne, not_not] at hx
    rw [isNaN, hx, beq_self_eq_true, Bool.true_and, bne_eq_false_iff_eq, fraction_eq_rank] at h
    rw [exponentField_eq_rank] at hx
    omega

theorem magnitude_le_of_rank_le {x y : Binary64} (h : x.rank ≤ y.rank) :
    x.magnitude ≤ y.magnitude := by
  rw [magnitude, magnitude, units_eq_unitsAt, units_eq_unitsAt]
  refine div_le_div_of_nonneg_right ?_ cast_unitsPerOne_pos.le
  exact_mod_cast unitsAt_strictMono.monotone h

/-- A number that is too large rounds to the infinity of its sign. -/
theorem nearest_of_magnitude_le {x : Binary64} {q : ℚ} (hrank : x.rank = 2047 * 2 ^ 52)
    (hlarge : x.magnitude ≤ |q|) (hsign : 0 ≤ q * x.value) : Nearest q x where
  closest := by
    intro y hy
    have hless : y.magnitude ≤ x.magnitude :=
      magnitude_le_of_rank_le (by rw [hrank]; exact rank_le_of_isNaN hy)
    calc |q - x.value| ≤ |(|q| - x.magnitude)| := by
          rw [← abs_value]
          exact abs_sub_le_abs_iff.mpr hsign
      _ = |q| - x.magnitude := abs_of_nonneg (sub_nonneg.mpr hlarge)
      _ ≤ |q| - y.magnitude := sub_le_sub_left hless _
      _ ≤ |q - y.value| := by
          rw [← abs_value]
          exact abs_sub_abs_le_abs_sub q y.value
  even := by
    intro _ _ _ _
    rw [even_significand_iff, hrank]
    decide

theorem ofRatio_eq (negative : Bool) (num den : Nat) :
    ofRatio negative num den = signedAt negative (nearestBits num den) := by
  cases negative with
  | false => rw [ofRatio, signedAt, if_neg Bool.false_ne_true, if_neg Bool.false_ne_true,
      Nat.zero_add]
  | true => rfl

theorem value_signedAt (negative : Bool) {k : Nat} (h : k ≤ 2047 * 2 ^ 52) :
    (signedAt negative k).value =
      if negative then -(signedAt negative k).magnitude else (signedAt negative k).magnitude := by
  rw [value, isNegative_signedAt negative h]

/-- A number rounds to the double of its sign at its place, or to the infinity if there is none. -/
theorem nearest_signedAt (negative : Bool) {q : ℚ} (hq : 0 ≤ q) {p : Nat}
    (h : RoundsTo (quarterUnits q) p) :
    Nearest (if negative then -q else q) (signedAt negative (min (2047 * 2 ^ 52) p)) := by
  have hbound : min (2047 * 2 ^ 52) p ≤ 2047 * 2 ^ 52 := Nat.min_le_left _ _
  have hsign := mul_signed_nonneg hq
    (signedAt negative (min (2047 * 2 ^ 52) p)).magnitude_nonneg negative
  rw [← value_signedAt negative hbound] at hsign
  have hrank := rank_signedAt negative hbound
  generalize signedAt negative (min (2047 * 2 ^ 52) p) = x at hsign hrank
  rcases Nat.lt_or_ge (2047 * 2 ^ 52) p with hp | hp
  · rw [min_eq_left hp.le] at hrank
    refine nearest_of_magnitude_le hrank ?_ hsign
    obtain ⟨j, rfl⟩ : ∃ j, p = j + 1 := ⟨p - 1, by omega⟩
    have hlower := h.lower j rfl
    have hmono : (unitsAt x.rank : ℚ) ≤ unitsAt j := by
      exact_mod_cast unitsAt_strictMono.monotone (by omega : x.rank ≤ j)
    have hgap : (0 : ℚ) < gapAt j := by exact_mod_cast gapAt_pos j
    rw [quarterUnits] at hlower
    rw [abs_signed hq, magnitude, units_eq_unitsAt, div_le_iff₀ cast_unitsPerOne_pos]
    linarith
  · rw [min_eq_right hp] at hrank
    rw [← hrank] at h
    refine nearest_of_reads ?_ hsign
    rw [abs_signed hq]
    exact h.reads (quarterUnits_nonneg hq)

/-- The bits of a quotient without its sign are its place, unless that is past the infinity. -/
theorem exists_nearestBits_eq (num : Nat) {den : Nat} (hden : 0 < den) :
    ∃ p, nearestBits num den = min (2047 * 2 ^ 52) p ∧
      RoundsTo (quarterUnits (num / den)) p := by
  obtain ⟨hlt, hge⟩ := binade_of_quotient (num * unitsPerOne) hden
  have hplace := roundsTo_place (counts_quotient _ hden hlt hge)
  have hquarter : quarterUnits (num / den) = 4 * ((num * unitsPerOne : Nat) / den) := by
    rw [quarterUnits]
    push_cast
    ring
  rw [← hquarter] at hplace
  refine ⟨_, ?_, hplace⟩
  simp only [nearestBits, infinityBits, Nat.pow_eq]

/-- A quotient is rounded to the nearest double. -/
theorem nearest_ofRatio (negative : Bool) (num : Nat) {den : Nat} (hden : 0 < den) :
    Nearest (if negative then -(num / den : ℚ) else num / den) (ofRatio negative num den) := by
  obtain ⟨p, hbits, hplace⟩ := exists_nearestBits_eq num hden
  rw [ofRatio_eq, hbits]
  exact nearest_signedAt negative (by positivity) hplace

/-! ## Reading what was written -/

/-- A number in the interval of a finite double has the place of the double. -/
theorem place_eq_of_reads {x : Binary64} (hx : x.isFinite = true) {t : ℚ} (ht : 0 ≤ t)
    (h : x.Reads t) {p : Nat} (hp : RoundsTo t p) : p = x.rank := by
  have hrank := rank_lt_of_isFinite hx
  rcases Nat.lt_or_ge (2047 * 2 ^ 52) p with hlarge | hsmall
  · obtain ⟨j, rfl⟩ : ∃ j, p = j + 1 := ⟨p - 1, by omega⟩
    have hlower := hp.lower j rfl
    have hnext := h.lt_next
    have hmono : (unitsAt (x.rank + 1) : ℚ) ≤ unitsAt j := by
      exact_mod_cast unitsAt_strictMono.monotone (by omega : x.rank + 1 ≤ j)
    have hgap : (0 : ℚ) < gapAt j := by exact_mod_cast gapAt_pos j
    linarith
  · have hplace := rank_signedAt false hsmall
    rw [← hplace] at hp ⊢
    exact rank_eq_of_reads (hp.reads ht) h

/-- The text of a finite number, read as a quotient, is rounded to the number. -/
theorem value_ofRatio_of_text {x : Binary64} (hx : x.isFinite = true) {n : PlainNumeral}
    (h : n.text = x.numeral) :
    (ofRatio n.negative (Nat.ofDigitChars 10 (n.whole ++ n.fraction) 0)
      (10 ^ n.fraction.length)).value = x.value := by
  obtain ⟨hnegative, hmagnitude⟩ := eq_of_text hx h
  have hpow : 0 < 10 ^ n.fraction.length := Nat.pow_pos (by decide)
  obtain ⟨p, hbits, hplace⟩ :=
    exists_nearestBits_eq (Nat.ofDigitChars 10 (n.whole ++ n.fraction) 0) hpow
  have hquotient : (Nat.ofDigitChars 10 (n.whole ++ n.fraction) 0 : ℚ) /
      (10 ^ n.fraction.length : Nat) = n.magnitude := by
    rw [PlainNumeral.magnitude]
    push_cast
    rfl
  have hreads : x.Reads (quarterUnits n.magnitude) := hmagnitude ▸ readsDecimal_written hx
  rw [hquotient] at hplace
  have hrank := rank_lt_of_isFinite hx
  have hp : p = x.rank :=
    place_eq_of_reads hx (quarterUnits_nonneg n.magnitude_nonneg) hreads hplace
  rw [ofRatio_eq, hbits, hp, min_eq_right hrank.le, value_signedAt _ hrank.le,
    magnitude_eq_of_rank_eq (rank_signedAt n.negative hrank.le), hnegative, value]
  by_cases hzero : x.units = 0
  · rw [magnitude_of_rank_eq_zero (units_eq_zero_iff.mp hzero)]
    simp
  · rw [bne_iff_ne.mpr hzero, Bool.and_true]

end Binary64

end Conformance
