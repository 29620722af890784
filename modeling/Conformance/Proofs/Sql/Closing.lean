import Conformance.Proofs.Sql.Lexing

set_option autoImplicit false

/-!
# Texts that end with a semicolon

A semicolon is a token by itself, and it ends the token before it.  So what stands in front of a
semicolon is read in the same way whatever follows, and the tokens of a text that ends with one are
followed by the tokens of any text that is appended to it.
-/

namespace Conformance.Sql

namespace Lexer

/-! ## The semicolon -/

theorem readSuffix_ne_semicolon (numeral : String) (cs : List Char) :
    (readSuffix numeral cs).1 ≠ .semicolon := by
  unfold readSuffix
  split <;> simp

theorem readFraction_ne_semicolon (whole point cs : List Char) :
    (readFraction whole point cs).1 ≠ .semicolon := by
  unfold readFraction
  split
  · simp
  · exact readSuffix_ne_semicolon _ _

theorem readNumber_ne_semicolon (cs : List Char) : (readNumber cs).1 ≠ .semicolon := by
  rw [readNumber_eq]
  unfold readNumeral
  split
  · simp
  · unfold readDecimal
    split <;> exact readFraction_ne_semicolon _ _ _

theorem readOther_ne_semicolon (c : Char) (cs : List Char) : (readOther c cs).1 ≠ .semicolon := by
  unfold readOther
  split
  · simp [readWord, Token.ofWord]
  · split <;> simp

theorem readText_ne_semicolon (make : String → Token) (hmake : ∀ s, make s ≠ .semicolon)
    {cs rest : List Char} : readText make cs ≠ .ok (.semicolon, rest) := by
  unfold readText
  intro h
  split at h
  · exact hmake _ (congrArg Prod.fst (Except.ok.inj h))
  · cases h

theorem readIdentifier_ne_semicolon {opening close : Char} {cs rest : List Char} :
    readIdentifier opening close cs ≠ .ok (.semicolon, rest) := by
  unfold readIdentifier
  intro h
  split at h <;> cases h

/-- Only the character is read as a semicolon. -/
theorem eq_of_readToken_semicolon {w : Bool} {c : Char} {cs rest : List Char}
    (h : readToken w c cs = .ok (.semicolon, rest)) : c = ';' ∧ rest = cs := by
  unfold readToken at h
  split at h
  case h_4 =>
    cases h
    exact ⟨rfl, rfl⟩
  case h_1 | h_2 | h_3 | h_5 | h_6 | h_18 | h_19 => cases h
  case h_7 => split at h <;> cases h
  case h_8 => exact absurd h (readText_ne_semicolon .text fun _ => nofun)
  case h_9 | h_10 => exact absurd h (readText_ne_semicolon .national fun _ => nofun)
  case h_11 | h_12 => split at h <;> cases h
  case h_13 | h_14 | h_15 => exact absurd h readIdentifier_ne_semicolon
  case h_16 => split at h <;> cases h
  case h_17 => exact absurd (congrArg Prod.fst (Except.ok.inj h)) (readNumber_ne_semicolon _)
  case h_20 =>
    split at h
    · cases h
    · split at h
      · exact absurd (congrArg Prod.fst (Except.ok.inj h)) (readNumber_ne_semicolon _)
      · exact absurd (congrArg Prod.fst (Except.ok.inj h)) (readOther_ne_semicolon _ _)

/-! ## In front of a semicolon -/

/-- A token that leaves a semicolon at the end of the text leaves it wherever the text goes on. -/
theorem readToken_before_semicolon {w : Bool} {c : Char} {cs front : List Char} {token : Token}
    (h : readToken w c (cs ++ [';']) = .ok (token, front ++ [';'])) (v : List Char) :
    readToken w c (cs ++ ';' :: v) = .ok (token, front ++ ';' :: v) := by
  by_cases hopen : Open c cs
  · cases hopen with
    | carriageReturn =>
      injection h with h
      obtain ⟨rfl, hfront⟩ := Prod.mk.inj h
      obtain rfl : front = [] := by simpa using hfront.symm
      rfl
    | @comment line hline =>
      -- the comment goes on behind the semicolon
      have hcomment : Open '-' ('-' :: (line ++ [';'])) := .comment (by simpa using hline)
      rw [List.cons_append, readToken_of_open hcomment] at h
      injection h with h
      simp at h
  · have hstable := stable_readToken (b := ';') rfl hopen w
    cases hread : readToken w c cs with
    | error e =>
      rw [hstable.error e hread] at h
      cases h
    | ok result =>
      obtain ⟨token', rest⟩ := result
      rw [hstable.ok token' rest hread []] at h
      injection h with h
      obtain ⟨rfl, hrest⟩ := Prod.mk.inj h
      obtain rfl := List.append_cancel_right hrest
      exact hstable.ok token' rest hread v

/-- A run up to a semicolon at the end of the text is a run up to it wherever the text goes on. -/
theorem Lexed.before_semicolon {w w' : Bool} {cs : List Char} {ts : List Token}
    (h : Lexed w cs ts w' [';']) :
    ∃ front, cs = front ++ [';'] ∧ ∀ v, Lexed w (front ++ ';' :: v) ts w' (';' :: v) := by
  generalize hrest : [';'] = rest at h
  induction h with
  | done =>
    subst hrest
    exact ⟨[], rfl, fun v => .done⟩
  | @token w w' c cs rest rest' token ts hread hlexed ih =>
    obtain ⟨front, rfl, hfront⟩ := ih hrest
    obtain ⟨middle, rfl⟩ := suffix_of_readToken hread
    subst hrest
    rw [← List.append_assoc] at hread
    refine ⟨c :: (middle ++ front), by simp, fun v => ?_⟩
    exact .token (readToken_before_semicolon hread v) (hfront v)

/-- The last token of a run is read where the run of the others ends. -/
theorem Lexed.exists_of_concat {w w'' : Bool} {cs rest : List Char} {ts : List Token}
    {token : Token} (h : Lexed w cs (ts ++ [token]) w'' rest) :
    ∃ w' c cs', Lexed w cs ts w' (c :: cs') ∧ readToken w' c cs' = .ok (token, rest) := by
  induction ts generalizing w cs with
  | nil =>
    cases h with
    | token hread hlexed =>
      cases hlexed with
      | done => exact ⟨_, _, _, .done, hread⟩
  | cons first ts ih =>
    cases h with
    | token hread hlexed =>
      obtain ⟨w', c, cs', hlexed', hlast⟩ := ih hlexed
      exact ⟨w', c, cs', .token hread hlexed', hlast⟩

end Lexer

/-! ## Texts one behind the other -/

/-- Behind a text that ends with a semicolon, another one is read as if it stood alone. -/
theorem tokenize_append_of_semicolon {cs v : List Char} {ts ts' : List Token}
    (h : tokenize cs = .ok (ts ++ [.semicolon])) (h' : tokenize v = .ok ts') :
    tokenize (cs ++ v) = .ok (ts ++ .semicolon :: ts') := by
  obtain ⟨_, hlexed⟩ := tokenize_eq_ok_iff.mp h
  obtain ⟨w', hlexed'⟩ := tokenize_eq_ok_iff.mp h'
  obtain ⟨_, c, cs', hfront, hlast⟩ := hlexed.exists_of_concat
  obtain ⟨rfl, rfl⟩ := Lexer.eq_of_readToken_semicolon hlast
  obtain ⟨front, rfl, hrun⟩ := hfront.before_semicolon
  refine tokenize_eq_ok_iff.mpr ⟨w', ?_⟩
  rw [List.append_assoc, List.singleton_append]
  exact (hrun v).append (.token rfl hlexed')

/-- Behind any text, on a line of its own, a semicolon ends what comes before. -/
theorem tokenize_semicolonLine {cs v : List Char} {ts ts' : List Token}
    (h : tokenize cs = .ok ts) (h' : tokenize v = .ok ts') :
    tokenize (cs ++ '\n' :: ';' :: '\n' :: v) = .ok (ts ++ .blank :: .semicolon :: .blank :: ts') ∨
      tokenize (cs ++ '\n' :: ';' :: '\n' :: v) = .ok (ts ++ .semicolon :: .blank :: ts') := by
  obtain ⟨w', hlexed'⟩ := tokenize_eq_ok_iff.mp h'
  have hclosing : tokenize (';' :: '\n' :: v) = .ok (.semicolon :: .blank :: ts') :=
    tokenize_eq_ok_iff.mpr ⟨w', .token rfl (.token rfl hlexed')⟩
  exact tokenize_newline h hclosing

end Conformance.Sql
