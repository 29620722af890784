import Conformance.Json.Token
import Mathlib.Data.List.TakeWhile

set_option autoImplicit false

/-!
# How tokens are spelled

`Spelling` says which characters a token may be written with: the parts of a string as they are or
with any of their escapes, and a number with its sign, its digits, a fraction and an exponent.
Reading is sound and complete for it.  What has been read is one of the spellings
(`read_sound`), and each spelling is read up to where it ends (`read_complete`), if what follows a
number cannot belong to it.
-/

namespace Conformance.Json.Token

/-! ## Strings -/

/-- How a part of a string may be written: a character as it is, unless it is a quote, a backslash
or a control character; some characters by a letter behind a backslash; and any code unit by four
digits to the base sixteen. -/
inductive PartSpelling : Part → List Char → Prop where
  | plain {c : Char} (hcontrol : 0x20 ≤ c.toNat) (hquote : c ≠ '\x22') (hbackslash : c ≠ '\\') :
      PartSpelling (.char c) [c]
  | short {e c : Char} (h : (e, c) ∈ escapes) : PartSpelling (.char c) ['\\', e]
  | unit {a b c d : Char} {unit : Nat} (h : hexNumber? [a, b, c, d] = some unit) :
      PartSpelling (.ofUnit unit) ['\\', 'u', a, b, c, d]

/-- The parts of a string, one after the other. -/
inductive PartsSpelling : List Part → List Char → Prop where
  | nil : PartsSpelling [] []
  | cons {part : Part} {parts : List Part} {piece cs : List Char} (h : PartSpelling part piece)
      (hparts : PartsSpelling parts cs) : PartsSpelling (part :: parts) (piece ++ cs)

theorem mem_of_lookup {e c : Char} (h : escapes.lookup e = some c) : (e, c) ∈ escapes := by
  obtain ⟨before, after, hescapes, -⟩ := List.lookup_eq_some_iff.mp h
  rw [hescapes]
  exact List.mem_append_right _ List.mem_cons_self

/-- No letter stands for two characters, and none of them is the one before four digits. -/
theorem lookup_of_mem : ∀ escape ∈ escapes,
    escape.1 ≠ 'u' ∧ escapes.lookup escape.1 = some escape.2 := by decide

theorem readParts_quote (rest : List Char) : readParts ('\x22' :: rest) = some ([], rest) := by
  rw [readParts]

theorem readParts_unit {a b c d : Char} (rest : List Char) :
    readParts ('\\' :: 'u' :: a :: b :: c :: d :: rest) = (hexNumber? [a, b, c, d]).bind fun unit =>
      (readParts rest).map fun (parts, rest) => (.ofUnit unit :: parts, rest) := by
  rw [readParts]
  cases hexNumber? [a, b, c, d] <;> cases readParts rest <;> rfl

theorem readParts_short {e : Char} (he : e ≠ 'u') (rest : List Char) :
    readParts ('\\' :: e :: rest) = (escapes.lookup e).bind fun c =>
      (readParts rest).map fun (parts, rest) => (.char c :: parts, rest) := by
  rw [readParts]
  · cases escapes.lookup e <;> cases readParts rest <;> rfl
  · intro a b c d rest h
    exact absurd h he

theorem readParts_plain {c : Char} (hquote : c ≠ '\x22') (hbackslash : c ≠ '\\')
    (rest : List Char) :
    readParts (c :: rest) = if c.toNat < 0x20 then none else
      (readParts rest).map fun (parts, rest) => (.char c :: parts, rest) := by
  rw [readParts]
  · cases readParts rest <;> rfl
  all_goals grind

theorem readParts_sound {cs rest : List Char} {parts : List Part}
    (h : readParts cs = some (parts, rest)) :
    ∃ body, PartsSpelling parts body ∧ cs = body ++ '\x22' :: rest := by
  fun_induction readParts cs generalizing parts rest with
  | case1 => cases h
  | case2 tail =>
    cases h
    exact ⟨[], .nil, rfl⟩
  | case3 a b c d tail ih =>
    simp only [Option.bind_eq_bind, Option.bind_eq_some_iff] at h
    obtain ⟨unit, hunit, ⟨tailParts, tailRest⟩, htail, hresult⟩ := h
    cases hresult
    obtain ⟨body, hbody, rfl⟩ := ih htail
    exact ⟨_, .cons (.unit hunit) hbody, rfl⟩
  | case4 e tail hunit ih =>
    simp only [Option.bind_eq_bind, Option.bind_eq_some_iff] at h
    obtain ⟨c, hc, ⟨tailParts, tailRest⟩, htail, hresult⟩ := h
    cases hresult
    obtain ⟨body, hbody, rfl⟩ := ih htail
    exact ⟨_, .cons (.short (mem_of_lookup hc)) hbody, rfl⟩
  | case5 c tail hquote hunit hbackslash hcontrol => cases h
  | case6 c tail hquote hunit hbackslash hcontrol ih =>
    simp only [Option.bind_eq_bind, Option.bind_eq_some_iff] at h
    obtain ⟨⟨tailParts, tailRest⟩, htail, hresult⟩ := h
    cases hresult
    obtain ⟨body, hbody, rfl⟩ := ih htail
    have hplain : PartSpelling (.char c) [c] := by
      refine .plain (by omega) hquote fun hc => ?_
      -- a backslash that nothing follows leaves the string open
      have hopen : body ++ '\x22' :: tailRest ≠ [] := by simp
      obtain ⟨e, more, hmore⟩ := List.exists_cons_of_ne_nil hopen
      exact hbackslash e more hc hmore
    exact ⟨_, .cons hplain hbody, rfl⟩

theorem readParts_complete {parts : List Part} {body : List Char} (h : PartsSpelling parts body)
    (rest : List Char) : readParts (body ++ '\x22' :: rest) = some (parts, rest) := by
  induction h with
  | nil => exact readParts_quote rest
  | @cons part parts piece body hpart hparts ih =>
    rw [List.append_assoc]
    cases hpart with
    | plain hcontrol hquote hbackslash =>
      rw [List.singleton_append, readParts_plain hquote hbackslash, if_neg (by omega), ih]
      rfl
    | @short e c hescape =>
      obtain ⟨he, hlookup⟩ := lookup_of_mem _ hescape
      show readParts ('\\' :: e :: (body ++ '\x22' :: rest)) = _
      rw [readParts_short he, hlookup, ih]
      rfl
    | unit hunit =>
      show readParts ('\\' :: 'u' :: _ :: _ :: _ :: _ :: (body ++ '\x22' :: rest)) = _
      rw [readParts_unit, hunit, ih]
      rfl

theorem readString_sound {cs rest : List Char} {token : Token}
    (h : readString cs = some (token, rest)) :
    ∃ parts body, PartsSpelling parts body ∧ cs = body ++ '\x22' :: rest ∧
      token = .string ((Part.characters? parts).map String.ofList) := by
  simp only [readString, Option.bind_eq_bind, Option.bind_eq_some_iff] at h
  obtain ⟨⟨parts, tail⟩, hparts, hresult⟩ := h
  cases hresult
  obtain ⟨body, hbody, hcs⟩ := readParts_sound hparts
  exact ⟨parts, body, hbody, hcs, rfl⟩

theorem readString_complete {parts : List Part} {body : List Char} (h : PartsSpelling parts body)
    (rest : List Char) :
    readString (body ++ '\x22' :: rest) =
      some (.string ((Part.characters? parts).map String.ofList), rest) := by
  rw [readString, readParts_complete h]
  rfl

/-! ## Numbers -/

/-- Digits, of which there is at least one. -/
structure IsDigits (ds : List Char) : Prop where
  nonempty : ds ≠ []
  isDigit : ∀ d ∈ ds, d.isDigit

/-- A number before the point: a single zero, or digits that begin with another. -/
inductive WholeSpelling : Nat → List Char → Prop where
  | zero : WholeSpelling 0 ['0']
  | digits {d : Char} {ds : List Char} (hd : d ≠ '0') (h : IsDigits (d :: ds)) :
      WholeSpelling (decimal (d :: ds)) (d :: ds)

/-- The digits behind the point, with the point, or nothing. -/
inductive FractionSpelling : List Char → List Char → Prop where
  | absent : FractionSpelling [] []
  | point {ds : List Char} (h : IsDigits ds) : FractionSpelling ds ('.' :: ds)

/-- The sign of an exponent, which need not be written if it is not negative. -/
inductive SignSpelling : Bool → List Char → Prop where
  | absent : SignSpelling false []
  | plus : SignSpelling false ['+']
  | minus : SignSpelling true ['-']

/-- An exponent with its letter, or nothing. -/
inductive ExponentSpelling : Option Int → List Char → Prop where
  | absent : ExponentSpelling none []
  | present {letter : Char} {negative : Bool} {sign ds : List Char}
      (hletter : letter = 'e' ∨ letter = 'E') (hsign : SignSpelling negative sign)
      (h : IsDigits ds) :
      ExponentSpelling (some (if negative then -(decimal ds : Int) else decimal ds))
        (letter :: (sign ++ ds))

/-- A number without its sign. -/
inductive NumeralSpelling (negative : Bool) : Numeral → List Char → Prop where
  | intro {whole : Nat} {fraction : List Char} {exponent : Option Int} {ws fs es : List Char}
      (hwhole : WholeSpelling whole ws) (hfraction : FractionSpelling fraction fs)
      (hexponent : ExponentSpelling exponent es) :
      NumeralSpelling negative ⟨negative, whole, fraction, exponent⟩ (ws ++ fs ++ es)

/-- What follows a number does not belong to it. -/
def Apart (rest : List Char) : Prop :=
  ∀ c ∈ rest.head?, c.isDigit = false ∧ c ≠ '.' ∧ c ≠ 'e' ∧ c ≠ 'E'

theorem readDigits_sound {cs ds rest : List Char} (h : readDigits cs = some (ds, rest)) :
    IsDigits ds ∧ cs = ds ++ rest := by
  simp only [readDigits, List.isEmpty_iff] at h
  split at h
  · cases h
  · next hds =>
    cases h
    exact ⟨⟨hds, fun d hd => List.mem_takeWhile_imp hd⟩, List.takeWhile_append_dropWhile.symm⟩

theorem readDigits_complete {ds rest : List Char} (h : IsDigits ds)
    (hrest : ∀ c ∈ rest.head?, c.isDigit = false) : readDigits (ds ++ rest) = some (ds, rest) := by
  have htail : rest.takeWhile Char.isDigit = [] ∧ rest.dropWhile Char.isDigit = rest := by
    cases rest with
    | nil => exact ⟨rfl, rfl⟩
    | cons c rest => simp [hrest c rfl]
  simp only [readDigits, List.takeWhile_append_of_pos h.isDigit,
    List.dropWhile_append_of_pos h.isDigit, htail, List.append_nil, List.isEmpty_iff, h.nonempty,
    if_false]

theorem readWhole_sound {cs rest : List Char} {n : Nat} (h : readWhole cs = some (n, rest)) :
    ∃ ws, WholeSpelling n ws ∧ cs = ws ++ rest := by
  unfold readWhole at h
  split at h
  · cases h
    exact ⟨_, .zero, rfl⟩
  · next hzero =>
    obtain ⟨⟨ds, tail⟩, hds, hresult⟩ := Option.map_eq_some_iff.mp h
    cases hresult
    obtain ⟨hdigits, rfl⟩ := readDigits_sound hds
    obtain ⟨d, ds, rfl⟩ := List.exists_cons_of_ne_nil hdigits.nonempty
    exact ⟨_, .digits (fun hd => hzero _ (by rw [hd]; rfl)) hdigits, rfl⟩

theorem readWhole_complete {n : Nat} {ws rest : List Char} (h : WholeSpelling n ws)
    (hrest : ∀ c ∈ rest.head?, c.isDigit = false) : readWhole (ws ++ rest) = some (n, rest) := by
  cases h with
  | zero => rfl
  | @digits d ds hd hdigits =>
    rw [readWhole, readDigits_complete hdigits hrest]
    · rfl
    · intro tail htail
      exact hd (List.cons.inj htail).1

theorem readFraction_sound {cs ds rest : List Char} (h : readFraction cs = some (ds, rest)) :
    ∃ fs, FractionSpelling ds fs ∧ cs = fs ++ rest := by
  unfold readFraction at h
  split at h
  · obtain ⟨hdigits, rfl⟩ := readDigits_sound h
    exact ⟨_, .point hdigits, rfl⟩
  · cases h
    exact ⟨[], .absent, rfl⟩

theorem readFraction_complete {ds fs rest : List Char} (h : FractionSpelling ds fs)
    (hrest : ∀ c ∈ rest.head?, c.isDigit = false ∧ c ≠ '.') :
    readFraction (fs ++ rest) = some (ds, rest) := by
  cases h with
  | absent =>
    rw [List.nil_append, readFraction]
    rintro tail rfl
    exact (hrest _ rfl).2 rfl
  | point hdigits =>
    show readDigits (ds ++ rest) = _
    exact readDigits_complete hdigits fun c hc => (hrest c hc).1

/-- Behind its letter an exponent is a sign and digits. -/
theorem readExponent_cons {e : Char} (he : e = 'e' ∨ e = 'E') {negative : Bool}
    {sign : List Char} (hsign : SignSpelling negative sign) {cs : List Char}
    (hcs : ∀ c ∈ cs.head?, c.isDigit) :
    readExponent (e :: (sign ++ cs)) = (readDigits cs).map fun (ds, rest) =>
      (some (if negative then -(decimal ds : Int) else decimal ds), rest) := by
  have hletter : (e = 'e' || e = 'E') = true := by simpa using he
  cases hsign with
  | absent =>
    rw [List.nil_append, readExponent, if_pos hletter]
    · rfl
    · rintro tail rfl
      exact absurd (hcs '-' rfl) (by decide)
    · rintro tail rfl
      exact absurd (hcs '+' rfl) (by decide)
  | plus =>
    show readExponent (e :: '+' :: cs) = _
    rw [readExponent, if_pos hletter]
    rfl
  | minus =>
    show readExponent (e :: '-' :: cs) = _
    rw [readExponent, if_pos hletter]
    rfl

theorem readExponent_sound {cs rest : List Char} {exponent : Option Int}
    (h : readExponent cs = some (exponent, rest)) :
    ∃ es, ExponentSpelling exponent es ∧ cs = es ++ rest := by
  cases cs with
  | nil =>
    cases h
    exact ⟨[], .absent, rfl⟩
  | cons e cs =>
    unfold readExponent at h
    simp only at h
    split at h
    · next hletter =>
      rw [Bool.or_eq_true, decide_eq_true_iff, decide_eq_true_iff] at hletter
      split at h
      all_goals
        obtain ⟨⟨ds, tail⟩, hds, hresult⟩ := Option.map_eq_some_iff.mp h
        cases hresult
        obtain ⟨hdigits, rfl⟩ := readDigits_sound hds
      · exact ⟨_, .present hletter .minus hdigits, rfl⟩
      · exact ⟨_, .present hletter .plus hdigits, rfl⟩
      · exact ⟨_, .present hletter .absent hdigits, rfl⟩
    · cases h
      exact ⟨[], .absent, rfl⟩

theorem readExponent_complete {exponent : Option Int} {es rest : List Char}
    (h : ExponentSpelling exponent es) (hrest : Apart rest) :
    readExponent (es ++ rest) = some (exponent, rest) := by
  cases h with
  | absent =>
    cases rest with
    | nil => rfl
    | cons c rest =>
      obtain ⟨-, -, hlower, hupper⟩ := hrest c rfl
      have hletter : ¬ ((c = 'e' || c = 'E') = true) := by simp [hlower, hupper]
      unfold readExponent
      exact if_neg hletter
  | @present letter negative sign ds hletter hsign hdigits =>
    have hhead : ∀ c ∈ (ds ++ rest).head?, c.isDigit := by
      obtain ⟨d, ds, rfl⟩ := List.exists_cons_of_ne_nil hdigits.nonempty
      rintro c ⟨⟩
      exact hdigits.isDigit d List.mem_cons_self
    have hread := readDigits_complete hdigits fun c hc => (hrest c hc).1
    rw [List.cons_append, List.append_assoc, readExponent_cons hletter hsign hhead, hread]
    rfl

theorem readNumeral_sound {negative : Bool} {cs rest : List Char} {token : Token}
    (h : readNumeral negative cs = some (token, rest)) :
    ∃ numeral chars, NumeralSpelling negative numeral chars ∧ cs = chars ++ rest ∧
      token = .number numeral := by
  simp only [readNumeral, Option.bind_eq_bind, Option.bind_eq_some_iff] at h
  obtain ⟨⟨whole, cs₁⟩, hwhole, ⟨fraction, cs₂⟩, hfraction, ⟨exponent, cs₃⟩, hexponent,
    hresult⟩ := h
  cases hresult
  obtain ⟨ws, hws, rfl⟩ := readWhole_sound hwhole
  obtain ⟨fs, hfs, rfl⟩ := readFraction_sound hfraction
  obtain ⟨es, hes, rfl⟩ := readExponent_sound hexponent
  exact ⟨_, _, ⟨hws, hfs, hes⟩, by simp, rfl⟩

theorem ExponentSpelling.head_append {exponent : Option Int} {es rest : List Char}
    (h : ExponentSpelling exponent es) (hrest : Apart rest) :
    ∀ c ∈ (es ++ rest).head?, c.isDigit = false ∧ c ≠ '.' := by
  cases h with
  | absent => exact fun c hc => ⟨(hrest c hc).1, (hrest c hc).2.1⟩
  | present hletter hsign hdigits =>
    rintro c ⟨⟩
    rcases hletter with rfl | rfl <;> decide

theorem FractionSpelling.head_append {ds fs rest : List Char} (h : FractionSpelling ds fs)
    (hrest : ∀ c ∈ rest.head?, c.isDigit = false) :
    ∀ c ∈ (fs ++ rest).head?, c.isDigit = false := by
  cases h with
  | absent => exact hrest
  | point hdigits =>
    rintro c ⟨⟩
    decide

theorem readNumeral_complete {negative : Bool} {numeral : Numeral} {chars rest : List Char}
    (h : NumeralSpelling negative numeral chars) (hrest : Apart rest) :
    readNumeral negative (chars ++ rest) = some (.number numeral, rest) := by
  obtain @⟨whole, fraction, exponent, ws, fs, es, hwhole, hfraction, hexponent⟩ := h
  have hes := hexponent.head_append hrest
  have hfs := hfraction.head_append fun c hc => (hes c hc).1
  rw [List.append_assoc, List.append_assoc, readNumeral, readWhole_complete hwhole hfs]
  simp only [Option.bind_eq_bind, Option.bind_some, readFraction_complete hfraction hes,
    readExponent_complete hexponent hrest]
  rfl

/-! ## Tokens -/

/-- What a token may be written with. -/
inductive Spelling : Token → List Char → Prop where
  | leftBrace : Spelling .leftBrace ['\x7b']
  | rightBrace : Spelling .rightBrace ['\x7d']
  | leftBracket : Spelling .leftBracket ['[']
  | rightBracket : Spelling .rightBracket [']']
  | comma : Spelling .comma [',']
  | colon : Spelling .colon [':']
  | null : Spelling .null ['n', 'u', 'l', 'l']
  | trueWord : Spelling (.bool true) ['t', 'r', 'u', 'e']
  | falseWord : Spelling (.bool false) ['f', 'a', 'l', 's', 'e']
  | string {parts : List Part} {body : List Char} (h : PartsSpelling parts body) :
      Spelling (.string ((Part.characters? parts).map String.ofList)) ('\x22' :: (body ++ ['\x22']))
  | negative {numeral : Numeral} {chars : List Char} (h : NumeralSpelling true numeral chars) :
      Spelling (.number numeral) ('-' :: chars)
  | positive {numeral : Numeral} {chars : List Char} (h : NumeralSpelling false numeral chars) :
      Spelling (.number numeral) chars

/-- What has been read is one of the spellings. -/
theorem read_sound {cs rest : List Char} {token : Token} (h : read cs = some (token, rest)) :
    ∃ chars, Spelling token chars ∧ cs = chars ++ rest := by
  unfold read at h
  split at h
  case h_10 tail =>
    obtain ⟨parts, body, hbody, rfl, rfl⟩ := readString_sound h
    exact ⟨_, .string hbody, by simp⟩
  case h_11 tail =>
    obtain ⟨numeral, chars, hchars, rfl, rfl⟩ := readNumeral_sound h
    exact ⟨_, .negative hchars, rfl⟩
  case h_12 =>
    obtain ⟨numeral, chars, hchars, rfl, rfl⟩ := readNumeral_sound h
    exact ⟨_, .positive hchars, rfl⟩
  all_goals
    cases h
    exact ⟨_, by constructor, rfl⟩

theorem read_of_isDigit {d : Char} (h : d.isDigit) (cs : List Char) :
    read (d :: cs) = readNumeral false (d :: cs) := by
  rw [read]
  all_goals
    intro tail hcs
    obtain ⟨rfl, -⟩ := List.cons.inj hcs
    exact absurd h (by decide)

theorem NumeralSpelling.exists_digit {negative : Bool} {numeral : Numeral} {chars : List Char}
    (h : NumeralSpelling negative numeral chars) : ∃ d tail, chars = d :: tail ∧ d.isDigit := by
  obtain ⟨hwhole, -, -⟩ := h
  cases hwhole with
  | zero => exact ⟨_, _, rfl, rfl⟩
  | digits hd hdigits => exact ⟨_, _, rfl, hdigits.isDigit _ List.mem_cons_self⟩

/-- Each spelling is read up to where it ends. -/
theorem read_complete {token : Token} {chars : List Char} (h : Spelling token chars)
    {rest : List Char} (hrest : ∀ numeral, token = .number numeral → Apart rest) :
    read (chars ++ rest) = some (token, rest) := by
  cases h with
  | string hbody =>
    rw [List.cons_append, List.append_assoc]
    exact readString_complete hbody rest
  | negative hchars => exact readNumeral_complete hchars (hrest _ rfl)
  | positive hchars =>
    obtain ⟨d, tail, rfl, hd⟩ := hchars.exists_digit
    rw [List.cons_append, read_of_isDigit hd]
    exact readNumeral_complete hchars (hrest _ rfl)
  | leftBrace | rightBrace | leftBracket | rightBracket | comma | colon => rfl
  | null | trueWord | falseWord => rfl

end Conformance.Json.Token
