import Conformance.Proofs.Sql.Pieces
import Conformance.Sql.Literal
import Mathlib.Data.List.Forall2

set_option autoImplicit false

/-!
# What a written text spells

A text spells the tokens that are found in it wherever it stands, as long as a barrier follows.
Spellings are put together with barriers between them.  A word, a quoted name and the written form
of a value each spell what they are meant to, whatever characters a text or a name holds.
-/

namespace Conformance.Sql

open Lexer

/-- Before a barrier the text is cut into the tokens, blanks apart. -/
def Spells (cs : List Char) (ts : List Token) : Prop :=
  ∀ (w : Bool) (b : Char) (v : List Char), isBarrier b = true →
    ∃ ts' w', Lexed w (cs ++ b :: v) ts' w' (b :: v) ∧ significant ts' = ts

namespace Spells

variable {cs cs' : List Char} {ts ts' : List Token} {b : Char}

theorem nil : Spells [] [] := fun w _ _ _ => ⟨[], w, .done, rfl⟩

/-- A text that is cut into tokens by itself. -/
theorem of_lexed (h : ∀ w, ∃ w', Lexed w cs ts w' []) (hblank : .blank ∉ ts) : Spells cs ts := by
  intro w b v hb
  obtain ⟨w', hlexed⟩ := h w
  refine ⟨ts, w', hlexed.barrier hb (Or.inr ?_) v, significant_of_notMem hblank⟩
  intro hlast
  exact hblank (List.mem_of_getLast? hlast)

theorem append (h : Spells cs ts) (hb : isBarrier b = true) (h' : Spells (b :: cs') ts') :
    Spells (cs ++ b :: cs') (ts ++ ts') := by
  intro w d v hd
  obtain ⟨us, w', hlexed, hus⟩ := h w b (cs' ++ d :: v) hb
  obtain ⟨us', w'', hlexed', hus'⟩ := h' w' d v hd
  refine ⟨us ++ us', w'', ?_, by rw [significant_append, hus, hus']⟩
  simpa using hlexed.append hlexed'

/-- One character that is a token by itself, whatever follows. -/
theorem cons {c : Char} (token : Token)
    (hread : ∀ w cs, readToken w c cs = .ok (token, cs)) (h : Spells cs ts) :
    Spells (c :: cs) (significant [token] ++ ts) := by
  intro w b v hb
  obtain ⟨us, w', hlexed, hus⟩ := h token.isWord b v hb
  refine ⟨token :: us, w', .token (hread w _) hlexed, ?_⟩
  rw [← hus, ← significant_append, List.singleton_append]

theorem space (h : Spells cs ts) : Spells (' ' :: cs) ts :=
  h.cons .blank fun _ _ => rfl

theorem leftParen (h : Spells cs ts) : Spells ('(' :: cs) (.leftParen :: ts) :=
  h.cons .leftParen fun _ _ => rfl

theorem rightParen (h : Spells cs ts) : Spells (')' :: cs) (.rightParen :: ts) :=
  h.cons .rightParen fun _ _ => rfl

theorem comma (h : Spells cs ts) : Spells (',' :: cs) (.comma :: ts) :=
  h.cons .comma fun _ _ => rfl

theorem semicolon (h : Spells cs ts) : Spells (';' :: cs) (.semicolon :: ts) :=
  h.cons .semicolon fun _ _ => rfl

/-- A text that is one token by itself. -/
theorem of_readToken {c : Char} {token : Token}
    (h : ∀ w, readToken w c cs = .ok (token, [])) (hblank : token ≠ .blank) :
    Spells (c :: cs) [token] :=
  of_lexed (fun w => ⟨_, .single (h w)⟩) (by simpa using Ne.symm hblank)

/-- Items between commas. -/
theorem intercalate {written : List (List Char)} {tokens : List (List Token)}
    (h : List.Forall₂ Spells written tokens) :
    Spells ([',', ' '].intercalate written) ([.comma].intercalate tokens) := by
  induction h with
  | nil => exact nil
  | cons hitem hitems ih =>
    cases hitems with
    | nil => simpa using hitem
    | cons hnext hrest =>
      simp only [List.intercalate_cons_cons] at ih ⊢
      simpa using hitem.append rfl ih.space.comma

end Spells

/-! ## Words and names -/

theorem spells_quoteIdentifier (name : String) :
    Spells (quoteIdentifier name).toList [.word ⟨name, some '\x22'⟩ none] := by
  have hread := readQuoted_doubled '\x22' name.toList [] (by simp)
  rw [quoteIdentifier, String.toList_ofList, quoted]
  refine Spells.of_readToken (fun w => ?_) (by simp)
  simp only [readToken, readIdentifier, hread, String.ofList_toList]
  rfl

/-- The words of a statement, each with the keyword it spells. -/
def insertWords : List (String × Keyword) :=
  [("INSERT", .INSERT), ("INTO", .INTO), ("VALUES", .VALUES), ("NULL", .NULL)]

theorem spells_word {word : String} {keyword : Keyword} (h : (word, keyword) ∈ insertWords) :
    Spells word.toList [.word ⟨word, none⟩ (some keyword)] := by
  simp only [insertWords, List.mem_cons, Prod.mk.injEq, List.not_mem_nil, or_false] at h
  rcases h with ⟨rfl, rfl⟩ | ⟨rfl, rfl⟩ | ⟨rfl, rfl⟩ | ⟨rfl, rfl⟩
  all_goals exact Spells.of_readToken (fun w => by cases w <;> decide +kernel) (by simp)

/-! ## Values -/

theorem spells_quoteText {value written : String} (h : quoteText value = .ok written) :
    Spells written.toList [.text value] := by
  unfold quoteText at h
  split at h
  · cases h
  · cases h
    have hread := readQuoted_doubled '\x27' value.toList [] (by simp)
    rw [String.toList_ofList, quoted]
    refine Spells.of_readToken (fun w => ?_) (by simp)
    simp only [readToken, readText, hread, String.ofList_toList]

theorem readNumber_of_isDigit {ds : List Char} (hne : ds ≠ [])
    (h : ∀ d ∈ ds, d.isDigit = true) : readNumber ds = (.number (String.ofList ds) false, []) := by
  rw [readNumber_eq, List.takeWhile_eq_self_iff.mpr h, List.dropWhile_eq_nil_iff.mpr h,
    readNumeral_of_not_hex (by simp)]
  simp [readDecimal, readFraction, hne, readExponent, readSuffix]

/-- A number is written in digits. -/
theorem isDigit_of_mem_repr {n : Nat} {d : Char} (h : d ∈ n.repr.toList) : d.isDigit = true := by
  rw [Nat.toList_repr] at h
  exact Nat.isDigit_of_mem_toDigits (by decide) (by decide) h

/-- A digit has no property that no digit has. -/
theorem eq_false_of_isDigit {p : Char → Bool} (h : ∀ c, p c = true → c.isDigit = false) {d : Char}
    (hd : d.isDigit = true) : p d = false := by
  rw [Bool.eq_false_iff]
  intro hp
  rw [h d hp] at hd
  cases hd

/-- A digit begins nothing but a numeral. -/
theorem readToken_digit (w : Bool) {d : Char} (ds : List Char) (hd : d.isDigit = true) :
    readToken w d ds = .ok (readNumber (d :: ds)) := by
  have hspecial : isSpecial d = false := by
    refine eq_false_of_isDigit (fun c hc => ?_) hd
    simp only [isSpecial, List.contains_iff_mem, List.mem_cons, List.not_mem_nil, or_false] at hc
    rcases hc with rfl | rfl | rfl | rfl | rfl | rfl | rfl | rfl | rfl | rfl | rfl
    all_goals rfl
  have hpair : ∀ e, isPair d e = false := by
    intro e
    refine eq_false_of_isDigit (p := fun c => isPair c e) (fun c hc => ?_) hd
    have hall : (pairs.all fun pair => !pair.1.isDigit) = true := by decide
    simpa using List.all_eq_true.mp hall (c, e) (by simpa [isPair] using hc)
  have hspace : isSpace d = false := by
    refine eq_false_of_isDigit (fun c hc => ?_) hd
    simp only [isSpace, Bool.or_eq_true, beq_iff_eq] at hc
    rcases hc with ((((rfl | rfl) | rfl) | rfl) | rfl) | rfl
    all_goals rfl
  rw [readToken_plain hspecial (fun e _ => hpair e), readPlain, hspace, hd]
  rfl

/-- A sign before a digit is an operator by itself. -/
theorem readToken_minus (w : Bool) {d : Char} (ds : List Char) (hd : d.isDigit = true) :
    readToken w '-' (d :: ds) = .ok (.operator "-", d :: ds) := by
  have hlong : ∀ n, spelled ('-' :: d :: ds) (n + 2) = none := by
    intro n
    have hall : (operators.all fun spelling => spelling.toList.all fun c => !c.isDigit) = true := by
      decide
    have hnot : String.ofList (('-' :: d :: ds).take (n + 2)) ∉ operators := by
      intro hop
      have hdigit := List.all_eq_true.mp (List.all_eq_true.mp hall _ hop) d (by simp)
      simp [hd] at hdigit
    simp only [spelled, List.contains_iff_mem, hnot, Bool.and_eq_true, and_false, if_false]
  have hoperator : operator? ('-' :: d :: ds) = some ("-", d :: ds) := by
    rw [operator?_eq, hlong 2, hlong 1, hlong 0]
    rfl
  have hpair : ∀ e, (d :: ds).head? = some e → isPair '-' e = false := by
    rintro e he
    obtain rfl : d = e := by simpa using he
    rw [Bool.eq_false_iff]
    intro h
    obtain rfl : d = '-' := by simpa [isPair, pairs] using h
    cases hd
  rw [readToken_plain rfl hpair, readPlain, readOther, hoperator]
  rfl

/-- The tokens of a number: a sign if it is negative, and its digits. -/
def integerTokens : Int → List Token
  | .ofNat n => [.number n.repr false]
  | .negSucc n => [.operator "-", .number (n + 1).repr false]

theorem spells_integer (n : Int) : Spells (toString n).toList (integerTokens n) := by
  have hdigits : ∀ m : Nat, ∃ d ds, m.repr.toList = d :: ds ∧ d.isDigit = true ∧
      ∀ w, readToken w d ds = .ok (.number m.repr false, []) := by
    intro m
    have hall : ∀ d ∈ m.repr.toList, d.isDigit = true := fun d hd => isDigit_of_mem_repr hd
    have hne : m.repr.toList ≠ [] := by
      rw [Nat.toList_repr]
      exact Nat.toDigits_ne_nil
    obtain ⟨d, ds, hrepr⟩ := List.exists_cons_of_ne_nil hne
    rw [hrepr] at hall hne
    refine ⟨d, ds, hrepr, hall d (by simp), fun w => ?_⟩
    rw [readToken_digit w ds (hall d (by simp)), readNumber_of_isDigit hne hall, ← hrepr,
      String.ofList_toList]
  cases n with
  | ofNat m =>
    obtain ⟨d, ds, hrepr, -, hread⟩ := hdigits m
    have hwritten : (toString (Int.ofNat m)).toList = d :: ds := hrepr
    rw [hwritten]
    exact Spells.of_readToken hread (by simp)
  | negSucc m =>
    obtain ⟨d, ds, hrepr, hd, hread⟩ := hdigits (m + 1)
    have hwritten : (toString (Int.negSucc m)).toList = '-' :: d :: ds := by
      change ("-" ++ (m + 1).repr).toList = _
      rw [String.toList_append, hrepr]
      rfl
    rw [hwritten]
    refine Spells.of_lexed (fun w => ⟨false, ?_⟩) (by simp [integerTokens])
    exact .token (readToken_minus w ds hd) (.token (hread _) .done)

/-- The tokens of a value. -/
def Value.tokens : Value → List Token
  | .null => [.word ⟨"NULL", none⟩ (some .NULL)]
  | .integer n => integerTokens n
  | .text s => [.text s]

/-- The written form of a value spells the value. -/
theorem spells_literal {value : Value} {written : String} (h : value.literal = .ok written) :
    Spells written.toList value.tokens := by
  cases value with
  | null =>
    cases h
    exact spells_word (by simp [insertWords])
  | integer n =>
    cases h
    exact spells_integer n
  | text s => exact spells_quoteText h

end Conformance.Sql
