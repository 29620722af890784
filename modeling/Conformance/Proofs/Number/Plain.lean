import Conformance.Number.Numeral
import Conformance.Proofs.Number.Shortest
import Conformance.Proofs.Text.Items

set_option autoImplicit false

/-!
# Numerals without an exponent

The positional form of a decimal is a plain numeral: digits, and more digits behind a point if there
is one (`exists_plain_positional`).  A plain numeral can be taken apart in one way only
(`chars_injective`), so that texts that are equal have equal values, and no white space belongs to
it.
-/

namespace Conformance

/-- A decimal numeral without an exponent. -/
@[ext]
structure PlainNumeral where
  negative : Bool
  /-- The digits before the point. -/
  whole : List Char
  /-- The digits behind the point; without any there is no point. -/
  fraction : List Char
  whole_ne : whole ≠ []
  isDigit_whole : ∀ c ∈ whole, c.isDigit = true
  isDigit_fraction : ∀ c ∈ fraction, c.isDigit = true

namespace PlainNumeral

/-- The point and the digits behind it. -/
def pointChars (n : PlainNumeral) : List Char :=
  if n.fraction = [] then [] else '.' :: n.fraction

/-- The sign, if there is one. -/
def signChars (n : PlainNumeral) : List Char := if n.negative then ['-'] else []

/-- The numeral as it is written. -/
def chars (n : PlainNumeral) : List Char := n.signChars ++ (n.whole ++ n.pointChars)

/-- The numeral as it is written. -/
def text (n : PlainNumeral) : String := String.ofList n.chars

/-- The exact magnitude. -/
def magnitude (n : PlainNumeral) : ℚ :=
  Nat.ofDigitChars 10 (n.whole ++ n.fraction) 0 / 10 ^ n.fraction.length

/-- The exact value. -/
def value (n : PlainNumeral) : ℚ := if n.negative then -n.magnitude else n.magnitude

theorem magnitude_nonneg (n : PlainNumeral) : 0 ≤ n.magnitude := by
  unfold magnitude
  positivity

theorem abs_value (n : PlainNumeral) : |n.value| = n.magnitude :=
  Binary64.abs_signed n.magnitude_nonneg n.negative

/-- The same digits with another sign. -/
def withSign (n : PlainNumeral) (negative : Bool) : PlainNumeral := { n with negative }

/-! ## Reading -/

theorem takeWhile_isDigit (n : PlainNumeral) :
    (n.whole ++ n.pointChars).takeWhile Char.isDigit = n.whole := by
  rw [List.takeWhile_append_of_pos n.isDigit_whole, pointChars]
  split
  · exact List.append_nil _
  · rw [List.takeWhile_cons_of_neg (by decide), List.append_nil]

theorem whole_eq_cons (n : PlainNumeral) : ∃ d ds, n.whole = d :: ds ∧ d.isDigit = true := by
  obtain ⟨d, ds, hwhole⟩ := List.exists_cons_of_ne_nil n.whole_ne
  exact ⟨d, ds, hwhole, n.isDigit_whole d (by rw [hwhole]; exact List.mem_cons_self)⟩

/-- The sign is there if the first character is no digit. -/
theorem negative_eq (n : PlainNumeral) :
    n.negative = n.chars.head?.any fun c => !c.isDigit := by
  obtain ⟨d, ds, hwhole, hd⟩ := n.whole_eq_cons
  rw [chars, signChars, hwhole]
  cases n.negative with
  | true => rfl
  | false => simp [hd]

theorem tail_pointChars (n : PlainNumeral) : n.pointChars.tail = n.fraction := by
  rw [pointChars]
  split
  · next hfraction => rw [hfraction, List.tail_nil]
  · rw [List.tail_cons]

/-- A numeral can be taken apart in one way only. -/
theorem chars_injective : Function.Injective chars := by
  intro m n h
  have hnegative : m.negative = n.negative := by rw [negative_eq, negative_eq, h]
  have hunsigned : m.whole ++ m.pointChars = n.whole ++ n.pointChars := by
    rw [chars, chars, signChars, signChars, hnegative] at h
    exact List.append_cancel_left h
  have hwhole : m.whole = n.whole := by
    rw [← takeWhile_isDigit, hunsigned, takeWhile_isDigit]
  have hpoint : m.pointChars = n.pointChars := by
    rw [hwhole] at hunsigned
    exact List.append_cancel_left hunsigned
  have hfraction : m.fraction = n.fraction := by
    rw [← tail_pointChars, hpoint, tail_pointChars]
  exact PlainNumeral.ext hnegative hwhole hfraction

theorem text_injective : Function.Injective text := fun _ _ h =>
  chars_injective (String.ofList_injective h)

theorem isBlank_of_isDigit {c : Char} (h : c.isDigit = true) : Text.isBlank c = false := by
  have hcode : 48 ≤ c.toNat ∧ c.toNat ≤ 57 := by
    simpa [Char.isDigit, UInt32.le_iff_toNat_le] using h
  simp [Text.isBlank, Text.whiteSpace]
  omega

/-- A numeral is made of a sign, digits and a point. -/
theorem eq_or_isDigit_of_mem_chars {n : PlainNumeral} {c : Char} (h : c ∈ n.chars) :
    c = '-' ∨ c = '.' ∨ c.isDigit = true := by
  rw [chars, signChars, pointChars, List.mem_append, List.mem_append] at h
  rcases h with hsign | hwhole | hpoint
  · split at hsign
    · exact .inl (List.mem_singleton.mp hsign)
    · cases hsign
  · exact .inr (.inr (n.isDigit_whole c hwhole))
  · split at hpoint
    · cases hpoint
    · rcases List.mem_cons.mp hpoint with rfl | hfraction
      · exact .inr (.inl rfl)
      · exact .inr (.inr (n.isDigit_fraction c hfraction))

theorem isBlank_of_mem_chars {n : PlainNumeral} {c : Char} (h : c ∈ n.chars) :
    Text.isBlank c = false := by
  rcases eq_or_isDigit_of_mem_chars h with rfl | rfl | hdigit
  · rfl
  · rfl
  · exact isBlank_of_isDigit hdigit

/-- A numeral is one piece of text. -/
theorem unbroken_text (n : PlainNumeral) : Text.Unbroken n.text where
  ne := by
    rw [text, Ne, String.ofList_eq_empty_iff, chars]
    simp [n.whole_ne]
  isBlank := by
    rw [text, String.toList_ofList]
    exact fun _ => isBlank_of_mem_chars
  comma := by
    rw [text, String.toList_ofList]
    intro hcomma
    exact absurd (eq_or_isDigit_of_mem_chars hcomma) (by decide)

/-- No white space belongs to a numeral. -/
theorem trim_text (n : PlainNumeral) : Text.trim n.text = n.text := n.unbroken_text.trim_eq

end PlainNumeral

/-! ## Positional forms -/

namespace Decimal

theorem isDigit_of_mem_toDigits {n : Nat} {c : Char} (h : c ∈ Nat.toDigits 10 n) :
    c.isDigit = true :=
  Nat.isDigit_of_mem_toDigits (by decide) (by decide) h

theorem isDigit_of_mem_zeros {n : Nat} {c : Char} (h : c ∈ List.replicate n '0') :
    c.isDigit = true := by
  rw [List.eq_of_mem_replicate h]
  rfl

/-- Digits with a point before the last of them. -/
theorem exists_plain_pointed {digits m : Nat} {whole fraction : List Char} (hne : whole ≠ [])
    (hdigits : ∀ c ∈ whole ++ fraction, c.isDigit = true) (hlength : fraction.length = m + 1)
    (hvalue : Nat.ofDigitChars 10 (whole ++ fraction) 0 = digits) : ∃ n : PlainNumeral,
      n.negative = false ∧ n.chars = whole ++ '.' :: fraction ∧
        n.magnitude = value ⟨digits, .negSucc m⟩ := by
  have hfraction : fraction ≠ [] := List.ne_nil_of_length_eq_add_one hlength
  refine ⟨⟨false, whole, fraction, hne, fun c hc => hdigits c (List.mem_append_left _ hc),
    fun c hc => hdigits c (List.mem_append_right _ hc)⟩, rfl, ?_, ?_⟩
  · simp [PlainNumeral.chars, PlainNumeral.signChars, PlainNumeral.pointChars, hfraction]
  · rw [PlainNumeral.magnitude, hvalue, hlength, value, zpow_negSucc, div_eq_mul_inv]

theorem positional_negSucc (digits m : Nat) :
    positional ⟨digits, .negSucc m⟩ =
      let cs := Nat.toDigits 10 digits
      if m + 1 < cs.length then
        cs.take (cs.length - (m + 1)) ++ '.' :: cs.drop (cs.length - (m + 1))
      else ['0'] ++ '.' :: (List.replicate (m + 1 - cs.length) '0' ++ cs) := rfl

/-- The positional form is a plain numeral of the same value. -/
theorem exists_plain_positional (d : Decimal) : ∃ n : PlainNumeral,
    n.negative = false ∧ n.chars = d.positional ∧ n.magnitude = d.value := by
  obtain ⟨digits, exponent⟩ := d
  have hne : Nat.toDigits 10 digits ≠ [] := Nat.toDigits_ne_nil
  have hvalue : Nat.ofDigitChars 10 (Nat.toDigits 10 digits) 0 = digits :=
    Nat.ofDigitChars_ten_toDigits
  cases exponent with
  | ofNat zeros =>
    refine ⟨⟨false, Nat.toDigits 10 digits ++ List.replicate zeros '0', [], by simp [hne], ?_,
      by simp⟩, rfl, by simp [PlainNumeral.chars, PlainNumeral.signChars, PlainNumeral.pointChars,
        positional], ?_⟩
    · intro c hc
      rcases List.mem_append.mp hc with hc | hc
      · exact isDigit_of_mem_toDigits hc
      · exact isDigit_of_mem_zeros hc
    · simp [PlainNumeral.magnitude, value, Nat.ofDigitChars_append, hvalue,
        Nat.ofDigitChars_replicate_zero, mul_comm]
  | negSucc m =>
    have hdigits : ∀ c ∈ Nat.toDigits 10 digits, c.isDigit = true := fun c =>
      isDigit_of_mem_toDigits
    rw [positional_negSucc]
    generalize Nat.toDigits 10 digits = cs at hne hvalue hdigits ⊢
    by_cases hplaces : m + 1 < cs.length
    -- the point stands between the digits
    · rw [if_pos hplaces]
      refine exists_plain_pointed ?_ ?_ (by rw [List.length_drop]; omega) ?_
      · rw [Ne, List.take_eq_nil_iff, not_or]
        exact ⟨by omega, hne⟩
      · rwa [List.take_append_drop]
      · rw [List.take_append_drop, hvalue]
    -- the point stands before the digits, with zeros in between
    · rw [if_neg hplaces]
      refine exists_plain_pointed (List.cons_ne_nil _ _) ?_ ?_ ?_
      · intro c hc
        rw [List.singleton_append, List.mem_cons, List.mem_append] at hc
        rcases hc with rfl | hc | hc
        · rfl
        · exact isDigit_of_mem_zeros hc
        · exact hdigits c hc
      · rw [List.length_append, List.length_replicate]
        omega
      · rw [List.singleton_append, Nat.ofDigitChars_cons, Nat.ofDigitChars_append,
          Nat.ofDigitChars_replicate_zero]
        simpa using hvalue

end Decimal

end Conformance
