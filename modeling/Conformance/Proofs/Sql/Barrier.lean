import Conformance.Sql.Lexer

set_option autoImplicit false

/-!
# Characters that end a token

White space, a comma, a parenthesis and a semicolon end every token that is not quoted and no
comment: they belong to no word, no numeral and no operator.  So what is read in front of such a
character does not depend on what follows it.
-/

namespace Conformance.Sql.Lexer

/-- A character that ends a token. -/
def isBarrier (c : Char) : Bool := [' ', '\n', ',', ';', '(', ')'].contains c

variable {b : Char}

/-- What holds of the six characters holds of every barrier. -/
theorem forall_barrier {p : Char → Prop}
    (h : p ' ' ∧ p '\n' ∧ p ',' ∧ p ';' ∧ p '(' ∧ p ')') (hb : isBarrier b = true) : p b := by
  obtain ⟨hspace, hnewline, hcomma, hsemicolon, hopening, hclosing⟩ := h
  simp only [isBarrier, List.contains_iff_mem, List.mem_cons, List.not_mem_nil, or_false] at hb
  rcases hb with rfl | rfl | rfl | rfl | rfl | rfl
  all_goals assumption

theorem isDigit_barrier (hb : isBarrier b = true) : b.isDigit = false :=
  forall_barrier (p := fun c => c.isDigit = false) (by decide) hb

theorem isHexDigit_barrier (hb : isBarrier b = true) : isHexDigit b = false :=
  forall_barrier (p := fun c => isHexDigit c = false) (by decide) hb

theorem isWordPart_barrier (hb : isBarrier b = true) : isWordPart b = false :=
  forall_barrier (p := fun c => isWordPart c = false) (by decide) hb

theorem isPlaceholderPart_barrier (hb : isBarrier b = true) : isPlaceholderPart b = false :=
  forall_barrier (p := fun c => isPlaceholderPart c = false) (by decide +kernel) hb

theorem isNumeric_barrier (hb : isBarrier b = true) : Text.isNumeric b = false :=
  forall_barrier (p := fun c => Text.isNumeric c = false) (by decide +kernel) hb

/-! ## Runs of characters -/

variable {p : Char → Bool}

theorem takeWhile_barrier (hb : p b = false) (cs v : List Char) :
    (cs ++ b :: v).takeWhile p = cs.takeWhile p := by
  induction cs with
  | nil => simp [hb]
  | cons c cs ih => by_cases hc : p c <;> simp [hc, ih]

theorem dropWhile_barrier (hb : p b = false) (cs v : List Char) :
    (cs ++ b :: v).dropWhile p = cs.dropWhile p ++ b :: v := by
  induction cs with
  | nil => simp [hb]
  | cons c cs ih => by_cases hc : p c <;> simp [hc, ih]

/-! ## Operators -/

/-- The operator of a given length at the front of a text. -/
def spelled (cs : List Char) (n : Nat) : Option (String × List Char) :=
  let spelling := String.ofList (cs.take n)
  if n ≤ cs.length && operators.contains spelling then some (spelling, cs.drop n) else none

theorem operator?_eq (cs : List Char) :
    operator? cs = (spelled cs 4).or ((spelled cs 3).or ((spelled cs 2).or (spelled cs 1))) := rfl

theorem isBarrier_of_mem_operator {spelling : String} (h : spelling ∈ operators) {c : Char}
    (hc : c ∈ spelling.toList) : isBarrier c = false := by
  have hall : (operators.all fun spelling => spelling.toList.all fun c => !isBarrier c) = true := by
    decide
  have hspelling := List.all_eq_true.mp hall spelling h
  simpa using List.all_eq_true.mp hspelling c hc

theorem spelled_barrier (hb : isBarrier b = true) (cs v : List Char) (n : Nat) :
    spelled (cs ++ b :: v) n =
      (spelled cs n).map fun (spelling, rest) => (spelling, rest ++ b :: v) := by
  unfold spelled
  by_cases hn : n ≤ cs.length
  · have hlong : n ≤ (cs ++ b :: v).length := by simp; omega
    simp only [List.take_append_of_le_length hn, List.drop_append_of_le_length hn, hn, hlong,
      decide_true, Bool.true_and]
    split <;> rfl
  · -- the barrier is among the characters that would have to spell an operator
    have hmem : b ∈ (cs ++ b :: v).take n := by
      rw [List.take_append, List.mem_append]
      obtain ⟨k, hk⟩ : ∃ k, n - cs.length = k + 1 := ⟨n - cs.length - 1, by omega⟩
      exact Or.inr (by simp [hk])
    have hnot : String.ofList ((cs ++ b :: v).take n) ∉ operators := by
      intro hop
      have := isBarrier_of_mem_operator hop (c := b) (by simpa using hmem)
      rw [hb] at this
      cases this
    simp [hn, hnot]

theorem operator?_barrier (hb : isBarrier b = true) (cs v : List Char) :
    operator? (cs ++ b :: v) =
      (operator? cs).map fun (spelling, rest) => (spelling, rest ++ b :: v) := by
  simp only [operator?_eq, spelled_barrier hb, Option.map_or]

/-! ## Numerals -/

/-- The digits of an exponent that begins with `lead`; the exponent is not there if they are not. -/
def exponentDigits (cs lead rest : List Char) : List Char × List Char :=
  match rest with
  | d :: _ => if d.isDigit then (lead ++ rest.takeWhile Char.isDigit, rest.dropWhile Char.isDigit)
    else ([], cs)
  | [] => ([], cs)

theorem readExponent_cons_cons (e sign : Char) (rest : List Char) :
    readExponent (e :: sign :: rest) =
      if e = 'e' || e = 'E' then
        if sign = '+' || sign = '-' then exponentDigits (e :: sign :: rest) [e, sign] rest
        else exponentDigits (e :: sign :: rest) [e] (sign :: rest)
      else ([], e :: sign :: rest) := rfl

theorem exponentDigits_barrier (hb : isBarrier b = true) (cs lead rest v : List Char) :
    exponentDigits (cs ++ b :: v) lead (rest ++ b :: v) =
      ((exponentDigits cs lead rest).1, (exponentDigits cs lead rest).2 ++ b :: v) := by
  cases rest with
  | nil => simp [exponentDigits, isDigit_barrier hb]
  | cons d rest =>
    have htake := takeWhile_barrier (isDigit_barrier hb) (d :: rest) v
    have hdrop := dropWhile_barrier (isDigit_barrier hb) (d :: rest) v
    simp only [List.cons_append] at htake hdrop
    simp only [exponentDigits, List.cons_append]
    split <;> simp [htake, hdrop]

theorem readExponent_barrier (hb : isBarrier b = true) (cs v : List Char) :
    readExponent (cs ++ b :: v) = ((readExponent cs).1, (readExponent cs).2 ++ b :: v) := by
  have hnoE : b ≠ 'e' ∧ b ≠ 'E' := forall_barrier (p := fun c => c ≠ 'e' ∧ c ≠ 'E') (by decide) hb
  have hnoSign : b ≠ '+' ∧ b ≠ '-' := forall_barrier (p := fun c => c ≠ '+' ∧ c ≠ '-') (by decide) hb
  match cs with
  | [] =>
    cases v with
    | nil => rfl
    | cons c v => simp [hnoE, readExponent]
  | [e] =>
    have hdigits := exponentDigits_barrier hb [e] [e] [] v
    rw [List.cons_append, List.nil_append, readExponent_cons_cons]
    simp [hnoSign, exponentDigits, isDigit_barrier hb, readExponent]
  | e :: sign :: rest =>
    have hsigned := exponentDigits_barrier hb (e :: sign :: rest) [e, sign] rest v
    have hunsigned := exponentDigits_barrier hb (e :: sign :: rest) [e] (sign :: rest) v
    simp only [List.cons_append] at hsigned hunsigned
    simp only [List.cons_append, readExponent_cons_cons]
    split
    · split
      · exact hsigned
      · exact hunsigned
    · rfl

/-- The numeral with or without a suffix `L`. -/
def readSuffix (numeral : String) : List Char → Token × List Char
  | 'L' :: rest => (.number numeral true, rest)
  | rest => (.number numeral false, rest)

/-- Reads what follows the whole part and the point of a numeral. -/
def readFraction (whole point rest : List Char) : Token × List Char :=
  if whole.isEmpty && (rest.takeWhile Char.isDigit).isEmpty then
    (.period, rest.dropWhile Char.isDigit)
  else
    readSuffix
      (String.ofList (whole ++ point ++ rest.takeWhile Char.isDigit ++
        (readExponent (rest.dropWhile Char.isDigit)).1))
      (readExponent (rest.dropWhile Char.isDigit)).2

/-- Reads what follows the whole part of a numeral. -/
def readDecimal (whole : List Char) : List Char → Token × List Char
  | '.' :: rest => readFraction whole ['.'] rest
  | rest => readFraction whole [] rest

/-- Reads the numeral that begins with a run of digits. -/
def readNumeral : List Char → List Char → Token × List Char
  | ['0'], 'x' :: rest =>
    (.hex (String.ofList (rest.takeWhile isHexDigit)), rest.dropWhile isHexDigit)
  | whole, rest => readDecimal whole rest

theorem readDecimal_cons_of_ne {c : Char} (hc : c ≠ '.') (whole rest : List Char) :
    readDecimal whole (c :: rest) = readFraction whole [] (c :: rest) := by
  unfold readDecimal
  split
  · next heq => exact absurd (List.cons.inj heq).1 hc
  · rfl

theorem readNumeral_of_not_hex {whole rest : List Char}
    (h : ¬ (whole = ['0'] ∧ rest.head? = some 'x')) :
    readNumeral whole rest = readDecimal whole rest := by
  unfold readNumeral
  split
  · simp at h
  · rfl

theorem readNumber_eq (cs : List Char) :
    readNumber cs = readNumeral (cs.takeWhile Char.isDigit) (cs.dropWhile Char.isDigit) := by
  unfold readNumber
  dsimp only
  generalize cs.takeWhile Char.isDigit = whole
  generalize cs.dropWhile Char.isDigit = rest
  split
  · rfl
  · next hhex =>
    rw [readNumeral_of_not_hex]
    · cases rest with
      | nil => rfl
      | cons c rest =>
        by_cases hc : c = '.'
        · subst hc
          rfl
        · rw [readDecimal_cons_of_ne hc]
          split
          · next heq => exact absurd (List.cons.inj heq).1 hc
          · rfl
    · rintro ⟨hwhole, hx⟩
      obtain ⟨digits, hrest⟩ := List.head?_eq_some_iff.mp hx
      exact hhex digits hwhole hrest

theorem readSuffix_barrier (hb : isBarrier b = true) (numeral : String) (cs v : List Char) :
    readSuffix numeral (cs ++ b :: v) =
      ((readSuffix numeral cs).1, (readSuffix numeral cs).2 ++ b :: v) := by
  have hnoL : b ≠ 'L' := forall_barrier (p := fun c => c ≠ 'L') (by decide) hb
  unfold readSuffix
  cases cs with
  | nil => split <;> simp_all
  | cons c cs => split <;> simp_all

theorem readFraction_barrier (hb : isBarrier b = true) (whole point cs v : List Char) :
    readFraction whole point (cs ++ b :: v) =
      ((readFraction whole point cs).1, (readFraction whole point cs).2 ++ b :: v) := by
  unfold readFraction
  rw [takeWhile_barrier (isDigit_barrier hb), dropWhile_barrier (isDigit_barrier hb),
    readExponent_barrier hb, readSuffix_barrier hb]
  split <;> rfl

theorem readDecimal_barrier (hb : isBarrier b = true) (whole cs v : List Char) :
    readDecimal whole (cs ++ b :: v) =
      ((readDecimal whole cs).1, (readDecimal whole cs).2 ++ b :: v) := by
  have hnoPoint : b ≠ '.' := forall_barrier (p := fun c => c ≠ '.') (by decide) hb
  cases cs with
  | nil =>
    rw [List.nil_append, readDecimal_cons_of_ne hnoPoint]
    exact readFraction_barrier hb whole [] [] v
  | cons c cs =>
    by_cases hc : c = '.'
    · subst hc
      exact readFraction_barrier hb whole ['.'] cs v
    · rw [List.cons_append, readDecimal_cons_of_ne hc, readDecimal_cons_of_ne hc]
      exact readFraction_barrier hb whole [] (c :: cs) v

theorem readNumeral_barrier (hb : isBarrier b = true) (whole cs v : List Char) :
    readNumeral whole (cs ++ b :: v) =
      ((readNumeral whole cs).1, (readNumeral whole cs).2 ++ b :: v) := by
  have hnoX : b ≠ 'x' := forall_barrier (p := fun c => c ≠ 'x') (by decide) hb
  by_cases hhex : whole = ['0'] ∧ cs.head? = some 'x'
  · obtain ⟨rfl, hx⟩ := hhex
    obtain ⟨digits, rfl⟩ := List.head?_eq_some_iff.mp hx
    simp [readNumeral, takeWhile_barrier (isHexDigit_barrier hb),
      dropWhile_barrier (isHexDigit_barrier hb)]
  · have hhex' : ¬ (whole = ['0'] ∧ (cs ++ b :: v).head? = some 'x') := by
      cases cs with
      | nil => simp [hnoX]
      | cons c cs => simpa using hhex
    rw [readNumeral_of_not_hex hhex, readNumeral_of_not_hex hhex', readDecimal_barrier hb]

theorem readNumber_barrier (hb : isBarrier b = true) (cs v : List Char) :
    readNumber (cs ++ b :: v) = ((readNumber cs).1, (readNumber cs).2 ++ b :: v) := by
  rw [readNumber_eq, readNumber_eq, takeWhile_barrier (isDigit_barrier hb),
    dropWhile_barrier (isDigit_barrier hb), readNumeral_barrier hb]

/-! ## Quoted text and comments -/

/-- A quoted text that is closed stays as it is before a barrier. -/
theorem readQuoted_barrier {quote : Char} (hquote : b ≠ quote) {cs content rest : List Char}
    (h : readQuoted quote cs = some (content, rest)) (v : List Char) :
    readQuoted quote (cs ++ b :: v) = some (content, rest ++ b :: v) := by
  fun_induction readQuoted quote cs generalizing content rest with
  | case1 => cases h
  | case2 =>
    cases h
    simp [readQuoted, hquote]
  | case3 c hc => cases h
  | case4 cs ih =>
    obtain ⟨⟨content', rest'⟩, hread, heq⟩ := Option.map_eq_some_iff.mp h
    cases heq
    simp [readQuoted, ih hread]
  | case5 d cs hd =>
    cases h
    simp [readQuoted, hd]
  | case6 c d cs hc ih =>
    obtain ⟨⟨content', rest'⟩, hread, heq⟩ := Option.map_eq_some_iff.mp h
    cases heq
    have hrest := ih hread
    rw [List.cons_append] at hrest
    simp [readQuoted, hc, hrest]

/-- A quoted text that is not closed is not closed by a barrier. -/
theorem readQuoted_eq_none_barrier {quote : Char} (hquote : b ≠ quote) {cs : List Char}
    (h : readQuoted quote cs = none) : readQuoted quote (cs ++ [b]) = none := by
  fun_induction readQuoted quote cs with
  | case1 => simp [readQuoted, hquote]
  | case2 => cases h
  | case3 c hc => simp [readQuoted, hc, hquote]
  | case4 cs ih => simp [readQuoted, ih (Option.map_eq_none_iff.mp h)]
  | case5 d cs hd => cases h
  | case6 c d cs hc ih =>
    have hrest := ih (Option.map_eq_none_iff.mp h)
    rw [List.cons_append] at hrest
    simp [readQuoted, hc, hrest]

theorem afterComment_append {cs rest : List Char} (h : afterComment cs = some rest)
    (v : List Char) : afterComment (cs ++ v) = some (rest ++ v) := by
  fun_induction afterComment cs with
  | case1 => cases h; simp [afterComment]
  | case2 c cs hnot ih =>
    rw [List.cons_append, afterComment]
    · exact ih h
    · cases cs with
      | nil => cases h
      | cons d cs =>
        rintro tail rfl heq
        obtain ⟨rfl, -⟩ := List.cons.inj heq
        exact hnot cs rfl rfl
  | case3 => cases h

theorem afterComment_eq_none_barrier (hb : isBarrier b = true) {cs : List Char}
    (h : afterComment cs = none) : afterComment (cs ++ [b]) = none := by
  have hnoSlash : b ≠ '/' := forall_barrier (p := fun c => c ≠ '/') (by decide) hb
  fun_induction afterComment cs with
  | case1 => cases h
  | case2 c cs hnot ih =>
    rw [List.cons_append, afterComment]
    · exact ih h
    · cases cs with
      | nil =>
        rintro tail rfl heq
        exact hnoSlash (List.cons.inj heq).1
      | cons d cs =>
        rintro tail rfl heq
        obtain ⟨rfl, -⟩ := List.cons.inj heq
        exact hnot cs rfl rfl
  | case3 => simp [afterComment]

theorem readBytes_barrier (hb : isBarrier b = true) {cs content rest : List Char}
    (h : readBytes cs = some (content, rest)) (v : List Char) :
    readBytes (cs ++ b :: v) = some (content, rest ++ b :: v) := by
  have hnoQuote : b ≠ '\x27' := forall_barrier (p := fun c => c ≠ '\x27') (by decide) hb
  fun_induction readBytes cs generalizing content rest with
  | case1 rest ih =>
    obtain ⟨⟨content', rest'⟩, hread, heq⟩ := Option.map_eq_some_iff.mp h
    cases heq
    simp [readBytes, ih hread]
  | case2 rest hnot =>
    cases h
    rw [List.cons_append, readBytes]
    intro tail heq
    cases rest with
    | nil => exact hnoQuote (List.cons.inj heq).1
    | cons d rest => exact hnot rest (by rw [(List.cons.inj heq).1])
  | case3 c rest ih =>
    obtain ⟨⟨content', rest'⟩, hread, heq⟩ := Option.map_eq_some_iff.mp h
    cases heq
    simp [readBytes, ih hread]
  | case4 c tail hdouble hclose hescape ih =>
    obtain ⟨⟨content', rest'⟩, hread, heq⟩ := Option.map_eq_some_iff.mp h
    cases heq
    cases tail with
    | nil => cases hread
    | cons d tail =>
      have hnoEscape : c ≠ '\\' := fun heq => hescape d tail heq rfl
      rw [List.cons_append, readBytes]
      · rw [ih hread]
        rfl
      · intro _ heq _
        exact hclose heq
      · exact hclose
      · intro _ _ heq _
        exact hnoEscape heq
  | case5 => cases h

theorem readBytes_eq_none_barrier (hb : isBarrier b = true) {cs : List Char}
    (h : readBytes cs = none) : readBytes (cs ++ [b]) = none := by
  have hnoQuote : b ≠ '\x27' := forall_barrier (p := fun c => c ≠ '\x27') (by decide) hb
  fun_induction readBytes cs with
  | case1 rest ih => simp [readBytes, ih (Option.map_eq_none_iff.mp h)]
  | case2 => cases h
  | case3 c rest ih => simp [readBytes, ih (Option.map_eq_none_iff.mp h)]
  | case4 c rest hdouble hclose hescape ih =>
    have hrest := ih (Option.map_eq_none_iff.mp h)
    by_cases hc : c = '\\'
    · subst hc
      cases rest with
      | nil => simp [readBytes]
      | cons d rest => exact absurd rfl (hescape d rest rfl)
    · rw [List.cons_append, readBytes]
      · simp [hrest]
      · intro _ heq _
        exact hclose heq
      · exact hclose
      · intro _ _ heq _
        exact hc heq
  | case5 =>
    rw [List.nil_append, readBytes]
    · rfl
    · intro _ heq _
      exact hnoQuote heq
    · exact hnoQuote
    · intro _ _ _ heq
      cases heq

end Conformance.Sql.Lexer
