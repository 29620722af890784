import Conformance.Json.Written
import Conformance.Proofs.Json.Grammar
import Mathlib.Tactic.IntervalCases

set_option autoImplicit false

/-!
# Written values are documents

The text that is made for a value is one of the many that write it, and so it is read back as that
value.  A number has to be one: what stands behind its point must be digits.
-/

namespace Conformance.Json

open Token

/-! ## Strings -/

/-- A control character is escaped by its code, which has two digits to the base sixteen. -/
theorem hexNumber?_control : ∀ n < 0x20,
    hexNumber? ['0', '0', hexDigit (n / 16), hexDigit (n % 16)] = some n := by decide

theorem partSpelling_escaped (c : Char) : PartSpelling (.char c) (escaped c) := by
  unfold escaped
  split
  · next hquote =>
    subst hquote
    exact .short (by decide)
  split
  · next hbackslash =>
    subst hbackslash
    exact .short (by decide)
  split
  · next hcontrol =>
    have hpart : Part.ofUnit c.toNat = .char c := by
      rw [Part.ofUnit, if_neg (by simp; omega), Char.ofNat_toNat]
    rw [← hpart]
    exact .unit (hexNumber?_control c.toNat hcontrol)
  · next hquote hbackslash hcontrol => exact .plain (by omega) hquote hbackslash

theorem partsSpelling_escaped (cs : List Char) :
    PartsSpelling (cs.map .char) (cs.flatMap escaped) := by
  induction cs with
  | nil => exact .nil
  | cons c cs ih => exact .cons (partSpelling_escaped c) ih

theorem characters?_char (cs : List Char) : Part.characters? (cs.map .char) = some cs := by
  induction cs with
  | nil => rfl
  | cons c cs ih => simp [Part.characters?, ih]

theorem spelling_writtenString (text : Option String) :
    Spelling (.string text) (writtenString text) := by
  cases text with
  | none =>
    have hunit : hexNumber? ['d', '8', '0', '0'] = some 0xd800 := by decide
    exact .string (.cons (.unit hunit) .nil)
  | some s =>
    have h := Spelling.string (partsSpelling_escaped s.toList)
    rwa [characters?_char, Option.map_some, String.ofList_toList] at h

/-! ## Numbers -/

/-- What stands behind the point of a number is digits. -/
def Numeral.Exact (numeral : Numeral) : Prop := ∀ d ∈ numeral.fraction, d.isDigit

theorem isDigits_toDigits (n : Nat) : IsDigits (Nat.toDigits 10 n) :=
  ⟨Nat.toDigits_ne_nil, fun _ => Nat.isDigit_of_mem_toDigits (by decide) (by decide)⟩

theorem decimal_toDigits (n : Nat) : decimal (Nat.toDigits 10 n) = n :=
  Nat.ofDigitChars_ten_toDigits

/-- Only zero begins with a zero. -/
theorem exists_toDigits_eq_cons {n : Nat} (h : 0 < n) :
    ∃ d ds, Nat.toDigits 10 n = d :: ds ∧ d ≠ '0' := by
  induction n using Nat.strongRecOn with
  | ind n ih =>
    by_cases hn : n < 10
    · refine ⟨_, _, Nat.toDigits_of_lt_base hn, ?_⟩
      interval_cases n <;> decide
    · obtain ⟨d, ds, hds, hd⟩ := ih (n / 10) (by omega) (by omega)
      exact ⟨d, ds ++ [Nat.digitChar (n % 10)],
        by rw [Nat.toDigits_of_base_le (by decide) (by omega), hds, List.cons_append], hd⟩

theorem wholeSpelling_toDigits (n : Nat) : WholeSpelling n (Nat.toDigits 10 n) := by
  rcases n.eq_zero_or_pos with rfl | hn
  · exact .zero
  · obtain ⟨d, ds, hds, hd⟩ := exists_toDigits_eq_cons hn
    have hdigits := isDigits_toDigits n
    have hvalue := decimal_toDigits n
    rw [hds] at hdigits hvalue ⊢
    have h := WholeSpelling.digits hd hdigits
    rwa [hvalue] at h

theorem exponentSpelling_toString (e : Int) :
    ExponentSpelling (some e) ('e' :: (toString e).toList) := by
  cases e with
  | ofNat n =>
    have h := ExponentSpelling.present (Or.inl rfl) .absent (isDigits_toDigits n)
    rw [decimal_toDigits] at h
    rw [← Nat.toList_repr] at h
    exact h
  | negSucc n =>
    have h := ExponentSpelling.present (Or.inl rfl) .minus (isDigits_toDigits (n + 1))
    rw [decimal_toDigits] at h
    have hchars : (toString (Int.negSucc n)).toList = ['-'] ++ Nat.toDigits 10 (n + 1) := by
      rw [← Nat.toList_repr]
      exact String.toList_append
    rw [hchars]
    exact h

theorem exponentSpelling_written (exponent : Option Int) :
    ExponentSpelling exponent (match exponent with
      | some e => 'e' :: (toString e).toList
      | none => []) := by
  cases exponent with
  | none => exact .absent
  | some e => exact exponentSpelling_toString e

theorem spelling_writtenNumeral {numeral : Numeral} (h : numeral.Exact) :
    Spelling (.number numeral) (writtenNumeral numeral) := by
  obtain ⟨negative, whole, fraction, exponent⟩ := numeral
  have hfraction : FractionSpelling fraction
      (if fraction.isEmpty then [] else '.' :: fraction) := by
    cases fraction with
    | nil => exact .absent
    | cons d ds => exact .point ⟨List.cons_ne_nil d ds, h⟩
  have hnumeral : NumeralSpelling negative ⟨negative, whole, fraction, exponent⟩ _ :=
    .intro (wholeSpelling_toDigits whole) hfraction (exponentSpelling_written exponent)
  cases negative with
  | false => exact .positive hnumeral
  | true => exact .negative hnumeral

/-! ## Values -/

mutual

theorem spells_written : (value : Json) → (∀ n, .number n ∈ value.tokens → n.Exact) →
    Spells value.tokens value.written
  | .null, _ => Spelling.null.spells
  | .bool true, _ => Spelling.trueWord.spells
  | .bool false, _ => Spelling.falseWord.spells
  | .number n, h => (spelling_writtenNumeral (h n (by simp [tokens]))).spells
  | .string text, _ => (spelling_writtenString text).spells
  | .array [], _ => Spelling.leftBracket.spells.append Spelling.rightBracket.spells
  | .array (item :: items), h =>
    have hitem := spells_written item fun n hn => h n (by simp [tokens, hn])
    have hitems := spells_writtenItems items fun n hn => h n (by simp [tokens, hn])
    Spelling.leftBracket.spells.append (hitem.append hitems)
  | .object [], _ => Spelling.leftBrace.spells.append Spelling.rightBrace.spells
  | .object ((key, value) :: members), h =>
    have hvalue := spells_written value fun n hn => h n (by simp [tokens, hn])
    have hmembers := spells_writtenMembers members fun n hn => h n (by simp [tokens, hn])
    Spelling.leftBrace.spells.append ((spelling_writtenString key).spells.append
      (Spelling.colon.spells.append (hvalue.append hmembers)))

theorem spells_writtenItems : (items : List Json) →
    (∀ n, .number n ∈ itemTokens items → n.Exact) → Spells (itemTokens items) (writtenItems items)
  | [], _ => Spelling.rightBracket.spells
  | item :: items, h =>
    have hitem := spells_written item fun n hn => h n (by simp [itemTokens, hn])
    have hitems := spells_writtenItems items fun n hn => h n (by simp [itemTokens, hn])
    Spelling.comma.spells.append (hitem.append hitems)

theorem spells_writtenMembers : (members : List (Option String × Json)) →
    (∀ n, .number n ∈ memberTokens members → n.Exact) →
    Spells (memberTokens members) (writtenMembers members)
  | [], _ => Spelling.rightBrace.spells
  | (key, value) :: members, h =>
    have hvalue := spells_written value fun n hn => h n (by simp [memberTokens, hn])
    have hmembers := spells_writtenMembers members fun n hn => h n (by simp [memberTokens, hn])
    Spelling.comma.spells.append ((spelling_writtenString key).spells.append
      (Spelling.colon.spells.append (hvalue.append hmembers)))

end

/-- The text made for a value is a document of it. -/
theorem document_text {value : Json} (h : ∀ n, .number n ∈ value.tokens → n.Exact) :
    Document value value.text := by
  rw [Document, text, String.toList_ofList]
  exact spells_written value h

end Conformance.Json
