import Conformance.Proofs.Number.Nearest
import Mathlib.Algebra.Order.Field.Power

set_option autoImplicit false

/-!
# What the shortest decimal is

A grid of a power of ten meets the interval around a double if and only if one of the two grid
points next to the double lies in it, since what lies between the double and a point of the interval
lies in it too (`gridPoint?_eq_none_iff`).  So the shortest decimal of a finite number that is not
zero reads back as its magnitude, and no decimal that does so stands on a coarser grid
(`readsDecimal_shortest`, `exponent_le_shortest`) or has fewer digits (`shortest_isShortest`).
-/

namespace Conformance

namespace Decimal

/-- The exact value of a decimal number. -/
def value (d : Decimal) : ℚ := d.digits * (10 : ℚ) ^ d.exponent

theorem value_nonneg (d : Decimal) : 0 ≤ d.value := by
  unfold value
  positivity

theorem value_one (k : Int) : value ⟨1, k⟩ = (10 : ℚ) ^ k := by
  rw [value, Nat.cast_one, one_mul]

/-- Between decimals of different lengths lies a power of ten, if the shorter one stands on no
coarser grid than the other. -/
theorem exists_power_between {d s : Decimal} (hexponent : d.exponent ≤ s.exponent)
    (hfewer : (Nat.toDigits 10 d.digits).length < (Nat.toDigits 10 s.digits).length) :
    ∃ k, s.exponent < k ∧ d.value ≤ value ⟨1, k⟩ ∧ value ⟨1, k⟩ ≤ s.value := by
  obtain ⟨places, hplaces⟩ : ∃ places, (Nat.toDigits 10 s.digits).length = places + 1 :=
    ⟨(Nat.toDigits 10 s.digits).length - 1, by omega⟩
  have hpos : 0 < (Nat.toDigits 10 d.digits).length := Nat.length_toDigits_pos
  have hlow : d.digits < 10 ^ places :=
    (Nat.length_toDigits_le_iff (by decide) (by omega)).mp (by omega)
  have hhigh : 10 ^ places ≤ s.digits := by
    rw [← not_lt, ← Nat.length_toDigits_le_iff (by decide) (by omega)]
    omega
  have hpower : value ⟨1, places + s.exponent⟩ = (10 : ℚ) ^ places * 10 ^ s.exponent := by
    rw [value_one, zpow_add₀ (by decide), zpow_natCast]
  refine ⟨places + s.exponent, by omega, ?_, ?_⟩
  · rw [hpower, value]
    exact mul_le_mul (by exact_mod_cast hlow.le)
      (zpow_le_zpow_right₀ (by norm_num) hexponent) (by positivity) (by positivity)
  · rw [hpower, value]
    exact mul_le_mul_of_nonneg_right (by exact_mod_cast hhigh) (by positivity)

end Decimal

namespace Binary64

variable {x : Binary64}

/-! ## The interval -/

/-- A decimal number reads back as the magnitude. -/
def ReadsDecimal (x : Binary64) (d : Decimal) : Prop := x.Reads (quarterUnits d.value)

/-- What lies between two numbers of the interval lies in it. -/
theorem Reads.convex {r s t : ℚ} (hr : x.Reads r) (ht : x.Reads t) (hrs : r ≤ s) (hst : s ≤ t) :
    x.Reads s := by
  unfold Reads at *
  split at hr
  · next heven =>
    rw [if_pos heven] at ht ⊢
    exact ⟨hr.1.trans hrs, hst.trans ht.2⟩
  · next hodd =>
    rw [if_neg hodd] at ht ⊢
    exact ⟨hr.1.trans_le hrs, hst.trans_lt ht.2⟩

/-- Numbers less than one gap away on either side lie in the interval, the ends apart. -/
theorem reads_of_near {k : Nat} (hrank : x.rank = k + 1) {t : ℚ}
    (hlower : (4 * unitsAt x.rank : ℚ) - 2 * gapAt k < t)
    (hupper : t < 4 * unitsAt x.rank + 2 * gapAt x.rank) : x.Reads t := by
  have hsucc : (unitsAt x.rank : ℚ) = unitsAt k + gapAt k := by rw [hrank, cast_unitsAt_succ]
  have hlow : (x.lowerEnd : ℚ) < t := by
    rw [cast_lowerEnd hrank]
    linarith
  have hup : t < (x.upperEnd : ℚ) := by rwa [cast_upperEnd]
  exact reads_of_between ⟨hlow.le, hup.le⟩ fun _ => ⟨hlow.ne', hup.ne⟩

/-- The magnitude itself lies in the interval. -/
theorem reads_units (x : Binary64) : x.Reads (4 * unitsAt x.rank) := by
  have hupper : (0 : ℚ) < gapAt x.rank := by exact_mod_cast gapAt_pos x.rank
  cases hrank : x.rank with
  | zero =>
    rw [unitsAt_zero, Nat.cast_zero, mul_zero]
    exact reads_of_rank_eq_zero hrank le_rfl (Nat.cast_nonneg _)
  | succ k =>
    have hlower : (0 : ℚ) < gapAt k := by exact_mod_cast gapAt_pos k
    rw [← hrank]
    exact reads_of_near hrank (by linarith) (by linarith)

/-! ## Grids -/

theorem gridStep_pos (k : Int) : 0 < (gridStep k).1 ∧ 0 < (gridStep k).2 := by
  have hunits : 0 < 4 * unitsPerOne := Nat.mul_pos (by decide) unitsPerOne_pos
  cases k with
  | ofNat k => exact ⟨Nat.mul_pos (Nat.pow_pos (by decide)) hunits, Nat.one_pos⟩
  | negSucc k => exact ⟨hunits, Nat.pow_pos (by decide)⟩

/-- Where the points of a grid lie. -/
theorem quarterUnits_value (n : Nat) (k : Int) :
    quarterUnits (Decimal.value ⟨n, k⟩) = (n * (gridStep k).1 : Nat) / (gridStep k).2 := by
  cases k with
  | ofNat k =>
    simp only [quarterUnits, Decimal.value, gridStep, Nat.pow_eq, Int.ofNat_eq_natCast,
      zpow_natCast]
    push_cast
    ring
  | negSucc k =>
    simp only [quarterUnits, Decimal.value, gridStep, Nat.pow_eq, zpow_negSucc]
    push_cast
    ring

theorem readsBack_gridStep {n : Nat} {k : Int} :
    x.readsBack (n * (gridStep k).1) (gridStep k).2 = true ↔ x.ReadsDecimal ⟨n, k⟩ := by
  rw [readsBack_iff (gridStep_pos k).2, ReadsDecimal, quarterUnits_value]

/-- The grid point next to the magnitude from below. -/
def gridFloor (x : Binary64) (k : Int) : Nat := 4 * x.units * (gridStep k).2 / (gridStep k).1

theorem gridPoint?_eq (x : Binary64) (k : Int) :
    x.gridPoint? k =
      if x.readsBack ((x.gridFloor k + 1) * (gridStep k).1) (gridStep k).2 &&
          (!x.readsBack (x.gridFloor k * (gridStep k).1) (gridStep k).2 ||
            (gridStep k).1 ≤ 2 * (4 * x.units * (gridStep k).2 % (gridStep k).1)) then
        some (x.gridFloor k + 1)
      else if x.readsBack (x.gridFloor k * (gridStep k).1) (gridStep k).2 then
        some (x.gridFloor k)
      else none := rfl

/-- The magnitude lies between two neighbours of the grid. -/
theorem gridFloor_between (x : Binary64) (k : Int) :
    quarterUnits (Decimal.value ⟨x.gridFloor k, k⟩) ≤ 4 * unitsAt x.rank ∧
      4 * unitsAt x.rank < quarterUnits (Decimal.value ⟨x.gridFloor k + 1, k⟩) := by
  obtain ⟨hstep, hscale⟩ := gridStep_pos k
  have hpos : (0 : ℚ) < (gridStep k).2 := by exact_mod_cast hscale
  rw [quarterUnits_value, quarterUnits_value, div_le_iff₀ hpos, lt_div_iff₀ hpos,
    ← units_eq_unitsAt, gridFloor]
  constructor
  · exact_mod_cast Nat.div_mul_le_self _ _
  · exact_mod_cast Nat.lt_mul_of_div_lt (Nat.lt_succ_self _) hstep

theorem quarterUnits_value_mono {m n : Nat} (h : m ≤ n) (k : Int) :
    quarterUnits (Decimal.value ⟨m, k⟩) ≤ quarterUnits (Decimal.value ⟨n, k⟩) := by
  obtain ⟨-, hscale⟩ := gridStep_pos k
  have hpos : (0 : ℚ) < (gridStep k).2 := by exact_mod_cast hscale
  rw [quarterUnits_value, quarterUnits_value, div_le_div_iff_of_pos_right hpos]
  exact_mod_cast Nat.mul_le_mul_right _ h

theorem readsDecimal_of_gridPoint? {k : Int} {n : Nat} (h : x.gridPoint? k = some n) :
    x.ReadsDecimal ⟨n, k⟩ := by
  rw [gridPoint?_eq] at h
  split at h
  · next hupper =>
    cases h
    exact readsBack_gridStep.mp (Bool.and_eq_true_iff.mp hupper).1
  · split at h
    · next hlower =>
      cases h
      exact readsBack_gridStep.mp hlower
    · cases h

/-- A grid that meets the interval meets it next to the magnitude. -/
theorem gridPoint?_eq_none_iff {k : Int} :
    x.gridPoint? k = none ↔ ∀ n, ¬ x.ReadsDecimal ⟨n, k⟩ := by
  obtain ⟨hbelow, habove⟩ := x.gridFloor_between k
  constructor
  · intro hnone n hn
    have hmiss : ¬ x.ReadsDecimal ⟨x.gridFloor k, k⟩ ∧
        ¬ x.ReadsDecimal ⟨x.gridFloor k + 1, k⟩ := by
      rw [gridPoint?_eq] at hnone
      simp only [← readsBack_gridStep]
      split at hnone
      · cases hnone
      · split at hnone
        · cases hnone
        · next hupper hlower =>
          simp only [Bool.not_eq_true] at hlower
          simpa [hlower] using hupper
    rcases Nat.lt_or_ge (x.gridFloor k) n with hlt | hge
    · exact hmiss.2 (x.reads_units.convex hn habove.le (quarterUnits_value_mono hlt k))
    · exact hmiss.1 (hn.convex x.reads_units (quarterUnits_value_mono hge k) hbelow)
  · intro hmiss
    cases hpoint : x.gridPoint? k with
    | none => rfl
    | some n => exact absurd (readsDecimal_of_gridPoint? hpoint) (hmiss n)

/-- The finest grid has points closer together than doubles are. -/
theorem exists_gridPoint?_finest (hrank : x.rank ≠ 0) : ∃ n, x.gridPoint? (-324) = some n := by
  obtain ⟨j, hj⟩ := Nat.exists_eq_succ_of_ne_zero hrank
  obtain ⟨hbelow, habove⟩ := x.gridFloor_between (-324)
  -- the spacing is less than a quarter unit
  have hspacing : quarterUnits (Decimal.value ⟨x.gridFloor (-324) + 1, -324⟩) <
      quarterUnits (Decimal.value ⟨x.gridFloor (-324), -324⟩) + 1 := by
    have hfine : ((gridStep (-324)).1 : ℚ) < (gridStep (-324)).2 := by
      exact_mod_cast (by decide +kernel : (gridStep (-324)).1 < (gridStep (-324)).2)
    have hpos : (0 : ℚ) < (gridStep (-324)).2 := by exact_mod_cast (gridStep_pos (-324)).2
    rw [quarterUnits_value, quarterUnits_value, Nat.succ_mul, Nat.cast_add, add_div,
      add_lt_add_iff_left, div_lt_one hpos]
    exact hfine
  have hlower : (1 : ℚ) ≤ gapAt j := by exact_mod_cast gapAt_pos j
  have hupper : (1 : ℚ) ≤ gapAt x.rank := by exact_mod_cast gapAt_pos x.rank
  have hreads : x.ReadsDecimal ⟨x.gridFloor (-324), -324⟩ :=
    reads_of_near hj (by linarith) (by linarith)
  cases hpoint : x.gridPoint? (-324) with
  | some n => exact ⟨n, rfl⟩
  | none => exact absurd hreads (gridPoint?_eq_none_iff.mp hpoint _)

/-! ## The coarsest grid -/

theorem mem_gridExponents {k : Int} : k ∈ gridExponents ↔ -324 ≤ k ∧ k ≤ 309 := by
  rw [gridExponents, List.mem_map]
  constructor
  · rintro ⟨i, hi, rfl⟩
    rw [List.mem_range] at hi
    omega
  · rintro ⟨hlow, hhigh⟩
    exact ⟨(309 - k).toNat, List.mem_range.mpr (by omega), by omega⟩

theorem pairwise_gridExponents : gridExponents.Pairwise fun j k => k < j := by
  rw [gridExponents, List.pairwise_map]
  refine List.pairwise_lt_range.imp fun {i j} hij => ?_
  omega

/-- The point of a grid as a decimal. -/
def gridDecimal? (x : Binary64) (k : Int) : Option Decimal :=
  (x.gridPoint? k).map fun n => ⟨n, k⟩

theorem gridDecimal?_eq_some_iff {k : Int} {d : Decimal} :
    x.gridDecimal? k = some d ↔ d.exponent = k ∧ x.gridPoint? k = some d.digits := by
  rw [gridDecimal?, Option.map_eq_some_iff]
  constructor
  · rintro ⟨n, hn, rfl⟩
    exact ⟨rfl, hn⟩
  · rintro ⟨rfl, hn⟩
    exact ⟨d.digits, hn, rfl⟩

theorem gridDecimal?_eq_none_iff {k : Int} : x.gridDecimal? k = none ↔ x.gridPoint? k = none := by
  rw [gridDecimal?, Option.map_eq_none_iff]

theorem shortest_eq (x : Binary64) :
    x.shortest = (gridExponents.findSome? x.gridDecimal?).getD ⟨0, 0⟩ := by
  unfold shortest gridDecimal?
  rfl

/-- In a falling list the first hit is the hit at the largest element that has one. -/
theorem findSome?_eq_some_iff_of_falling {β : Type} {f : Int → Option β} {b : β} {ks : List Int}
    (h : ks.Pairwise fun j k => k < j) :
    ks.findSome? f = some b ↔ ∃ k ∈ ks, f k = some b ∧ ∀ j ∈ ks, k < j → f j = none := by
  induction ks with
  | nil => simp
  | cons i ks ih =>
    obtain ⟨hfirst, htail⟩ := List.pairwise_cons.mp h
    rw [List.findSome?_cons]
    cases hi : f i with
    | some a =>
      constructor
      · intro hab
        refine ⟨i, List.mem_cons_self, hi.trans hab, fun j hj hlt => ?_⟩
        rcases List.mem_cons.mp hj with rfl | hj
        · exact absurd hlt (lt_irrefl _)
        · exact absurd hlt (lt_asymm (hfirst j hj))
      · rintro ⟨k, hk, hkb, hnone⟩
        rcases List.mem_cons.mp hk with rfl | hk
        · exact hi.symm.trans hkb
        · rw [hnone i List.mem_cons_self (hfirst k hk)] at hi
          cases hi
    | none =>
      rw [ih htail]
      constructor
      · rintro ⟨k, hk, hkb, hnone⟩
        exact ⟨k, List.mem_cons_of_mem _ hk, hkb,
          List.forall_mem_cons.mpr ⟨fun _ => hi, hnone⟩⟩
      · rintro ⟨k, hk, hkb, hnone⟩
        rcases List.mem_cons.mp hk with rfl | hk
        · rw [hi] at hkb
          cases hkb
        · exact ⟨k, hk, hkb, (List.forall_mem_cons.mp hnone).2⟩

/-- The shortest decimal is the point of the coarsest grid that has one. -/
theorem shortest_eq_iff (hrank : x.rank ≠ 0) {d : Decimal} :
    x.shortest = d ↔ d.exponent ∈ gridExponents ∧ x.gridPoint? d.exponent = some d.digits ∧
      ∀ k ∈ gridExponents, d.exponent < k → x.gridPoint? k = none := by
  have hfound : x.shortest = d ↔ gridExponents.findSome? x.gridDecimal? = some d := by
    obtain ⟨n, hn⟩ := exists_gridPoint?_finest hrank
    rw [shortest_eq]
    cases hsome : gridExponents.findSome? x.gridDecimal? with
    | none =>
      have hnone := List.findSome?_eq_none_iff.mp hsome (-324) (mem_gridExponents.mpr (by decide))
      rw [gridDecimal?_eq_none_iff, hn] at hnone
      cases hnone
    | some b => rw [Option.getD_some, Option.some.injEq]
  rw [hfound, findSome?_eq_some_iff_of_falling pairwise_gridExponents]
  simp only [gridDecimal?_eq_some_iff, gridDecimal?_eq_none_iff]
  constructor
  · rintro ⟨k, hk, ⟨rfl, hdigits⟩, hnone⟩
    exact ⟨hk, hdigits, hnone⟩
  · rintro ⟨hmem, hdigits, hnone⟩
    exact ⟨d.exponent, hmem, ⟨rfl, hdigits⟩, hnone⟩

theorem digits_pos_of_readsDecimal (hrank : x.rank ≠ 0) {d : Decimal} (h : x.ReadsDecimal d) :
    1 ≤ d.digits := by
  by_contra hzero
  have hvalue : d.value = 0 := by
    rw [Decimal.value, Nat.lt_one_iff.mp (not_le.mp hzero), Nat.cast_zero, zero_mul]
  rw [ReadsDecimal, hvalue, quarterUnits, zero_mul] at h
  exact hrank h.rank_eq_zero

/-- What reads back as a finite magnitude is less than the next magnitude, `2 ^ 1024` at most. -/
theorem value_lt_of_readsDecimal (hx : x.isFinite = true) {d : Decimal} (h : x.ReadsDecimal d) :
    d.value < (10 : ℚ) ^ (310 : Int) := by
  have hnext := Reads.lt_next h
  have hmono : (unitsAt (x.rank + 1) : ℚ) ≤ unitsAt (2047 * 2 ^ 52) := by
    exact_mod_cast unitsAt_strictMono.monotone (rank_lt_of_isFinite hx)
  have hlast : (unitsAt (2047 * 2 ^ 52) : ℚ) < unitsPerOne * (10 : ℚ) ^ (310 : Int) := by
    exact_mod_cast (by decide +kernel : unitsAt (2047 * 2 ^ 52) < unitsPerOne * 10 ^ 310)
  rw [quarterUnits] at hnext
  refine lt_of_mul_lt_mul_right (a := 4 * (unitsPerOne : ℚ)) ?_
    (mul_nonneg (by decide) cast_unitsPerOne_pos.le)
  linarith

/-- No decimal of a grid coarser than all of these reads back as a finite magnitude. -/
theorem exponent_le_of_readsDecimal (hx : x.isFinite = true) (hrank : x.rank ≠ 0) {d : Decimal}
    (h : x.ReadsDecimal d) : d.exponent ≤ 309 := by
  -- a grid point that is not zero is at least as large as the spacing of its grid
  have hlarge : (10 : ℚ) ^ d.exponent ≤ d.value :=
    le_mul_of_one_le_left (by positivity) (by exact_mod_cast digits_pos_of_readsDecimal hrank h)
  by_contra hexponent
  exact absurd (hlarge.trans_lt (value_lt_of_readsDecimal hx h))
    (not_lt.mpr (zpow_le_zpow_right₀ (by norm_num) (by omega)))

/-- The shortest decimal of a number that is not zero reads back as its magnitude. -/
theorem readsDecimal_shortest (hrank : x.rank ≠ 0) : x.ReadsDecimal x.shortest := by
  obtain ⟨-, hpoint, -⟩ := (shortest_eq_iff hrank).mp (rfl : x.shortest = x.shortest)
  generalize x.shortest = d at hpoint ⊢
  exact readsDecimal_of_gridPoint? hpoint

/-- No decimal of a coarser grid reads back. -/
theorem exponent_le_shortest (hx : x.isFinite = true) (hrank : x.rank ≠ 0) {d : Decimal}
    (h : x.ReadsDecimal d) : d.exponent ≤ x.shortest.exponent := by
  obtain ⟨hmem, -, hnone⟩ := (shortest_eq_iff hrank).mp (rfl : x.shortest = x.shortest)
  by_contra hlt
  rw [not_le] at hlt
  have hlow := (mem_gridExponents.mp hmem).1
  have hcoarser := hnone d.exponent
    (mem_gridExponents.mpr ⟨by omega, exponent_le_of_readsDecimal hx hrank h⟩) hlt
  exact gridPoint?_eq_none_iff.mp hcoarser d.digits h

theorem quarterUnits_le {p q : ℚ} (h : p ≤ q) : quarterUnits p ≤ quarterUnits q :=
  mul_le_mul_of_nonneg_right h (mul_nonneg (by decide) cast_unitsPerOne_pos.le)

/-- No decimal with fewer digits lies in the interval. -/
theorem length_digits_shortest_le (hx : x.isFinite = true) (hrank : x.rank ≠ 0) {d : Decimal}
    (h : x.ReadsDecimal d) :
    (Nat.toDigits 10 x.shortest.digits).length ≤ (Nat.toDigits 10 d.digits).length := by
  have hreads := readsDecimal_shortest hrank
  have hexponent := exponent_le_shortest hx hrank h
  by_contra hfewer
  -- the power of ten between the two would read back, and it stands on a coarser grid
  obtain ⟨k, hcoarser, hbelow, habove⟩ :=
    Decimal.exists_power_between hexponent (not_le.mp hfewer)
  have hbetween : x.ReadsDecimal ⟨1, k⟩ :=
    h.convex hreads (quarterUnits_le hbelow) (quarterUnits_le habove)
  exact absurd (exponent_le_shortest hx hrank hbetween) (not_le.mpr hcoarser)

/-! ## Rounding back -/

/-- A decimal behind the sign of a double rounds to the double. -/
def RoundsBack (x : Binary64) (d : Decimal) : Prop :=
  Nearest (if x.isNegative then -d.value else d.value) x

theorem roundsBack_iff (hx : x.isFinite = true) {d : Decimal} :
    x.RoundsBack d ↔ x.ReadsDecimal d := by
  have habs := abs_signed d.value_nonneg x.isNegative
  constructor
  · intro h
    have hreads := (reads_of_nearest hx h).1
    rwa [habs] at hreads
  · intro h
    refine nearest_of_reads ?_ (mul_signed_nonneg d.value_nonneg x.magnitude_nonneg x.isNegative)
    rwa [habs]

/-- A decimal that rounds back, with as few digits as any that does. -/
structure IsShortest (x : Binary64) (d : Decimal) : Prop where
  rounds : x.RoundsBack d
  fewest : ∀ e : Decimal, x.RoundsBack e →
    (Nat.toDigits 10 d.digits).length ≤ (Nat.toDigits 10 e.digits).length

theorem shortest_isShortest (hx : x.isFinite = true) (hrank : x.rank ≠ 0) :
    x.IsShortest x.shortest where
  rounds := (roundsBack_iff hx).mpr (readsDecimal_shortest hrank)
  fewest := fun _ h => length_digits_shortest_le hx hrank ((roundsBack_iff hx).mp h)

end Binary64

end Conformance
