import Conformance.Proofs.Sql.Progress

set_option autoImplicit false

/-!
# Reading tokens one after the other

`Lexed` relates a text to the tokens at its front and to what is left behind them.  It does not
count steps, and a run can be cut at any token and put together again.  A text that has been cut
into tokens is cut in the same way when a barrier and more text follow, unless its last token is
one that the barrier could belong to: a line comment, or a carriage return before a line feed.
-/

namespace Conformance.Sql

namespace Lexer

variable {b : Char}

/-! ## One token before a barrier -/

/-- A reader goes the same way when a barrier follows the text. -/
structure Stable (b : Char) (read : List Char → Except LexError (Token × List Char))
    (cs : List Char) : Prop where
  ok : ∀ token rest, read cs = .ok (token, rest) →
    ∀ v, read (cs ++ b :: v) = .ok (token, rest ++ b :: v)
  error : ∀ e, read cs = .error e → read (cs ++ [b]) = .error e

theorem Stable.of_pure (read : List Char → Token × List Char) {cs : List Char}
    (h : ∀ v, read (cs ++ b :: v) = ((read cs).1, (read cs).2 ++ b :: v)) :
    Stable b (fun cs => .ok (read cs)) cs where
  ok token rest hread v := by
    injection hread with hread
    rw [h, hread]
  error e hread := by cases hread

/-- A reader that begins with one more character. -/
theorem Stable.shift {read read' : List Char → Except LexError (Token × List Char)} {d : Char}
    {cs : List Char} (hstable : Stable b read' cs) (h : ∀ cs, read (d :: cs) = read' cs) :
    Stable b read (d :: cs) where
  ok token rest hread v := by
    rw [List.cons_append, h]
    rw [h] at hread
    exact hstable.ok token rest hread v
  error e hread := by
    rw [List.cons_append, h]
    rw [h] at hread
    exact hstable.error e hread

/-- Makes a token of what a reader finds, and fails where it finds nothing. -/
def orError {α : Type} (find : List Char → Option (α × List Char)) (make : α → Token)
    (e : LexError) (cs : List Char) : Except LexError (Token × List Char) :=
  match find cs with
  | some (a, rest) => .ok (make a, rest)
  | none => .error e

theorem stable_orError {α : Type} {find : List Char → Option (α × List Char)} {cs : List Char}
    (hsome : ∀ a rest, find cs = some (a, rest) →
      ∀ v, find (cs ++ b :: v) = some (a, rest ++ b :: v))
    (hnone : find cs = none → find (cs ++ [b]) = none) (make : α → Token) (e : LexError) :
    Stable b (orError find make e) cs := by
  unfold orError
  constructor
  · intro token rest h v
    cases hfind : find cs with
    | none =>
      rw [hfind] at h
      cases h
    | some found =>
      obtain ⟨a, rest'⟩ := found
      rw [hfind] at h
      cases h
      rw [hsome a rest hfind v]
  · intro e' h
    cases hfind : find cs with
    | none =>
      rw [hfind] at h
      rw [hnone hfind]
      exact h
    | some found =>
      rw [hfind] at h
      cases h

theorem stable_readQuoted {quote : Char} (hquote : b ≠ quote) (make : List Char → Token)
    (e : LexError) (cs : List Char) : Stable b (orError (readQuoted quote) make e) cs :=
  stable_orError (fun _ _ hread v => readQuoted_barrier hquote hread v)
    (readQuoted_eq_none_barrier hquote) make e

theorem stable_readText (hb : isBarrier b = true) (make : String → Token) (cs : List Char) :
    Stable b (readText make) cs := by
  have hquote : b ≠ '\x27' := forall_barrier (p := fun c => c ≠ '\x27') (by decide) hb
  have hread : readText make =
      orError (readQuoted '\x27') (fun content => make (String.ofList content)) .unclosedText := by
    funext cs
    unfold readText orError
    cases readQuoted '\x27' cs <;> rfl
  rw [hread]
  exact stable_readQuoted hquote _ _ cs

theorem stable_readIdentifier {opening close : Char} (hclose : b ≠ close) (cs : List Char) :
    Stable b (readIdentifier opening close) cs := by
  have hread : readIdentifier opening close =
      orError (readQuoted close) (fun content => .ofWord ⟨String.ofList content, some opening⟩)
        .unclosedIdentifier := by
    funext cs
    unfold readIdentifier orError
    cases readQuoted close cs <;> rfl
  rw [hread]
  exact stable_readQuoted hclose _ _ cs

/-- Reads a token whose first character stands for itself or begins a word, a numeral or an
operator. -/
def readPlain (c : Char) (cs : List Char) : Token × List Char :=
  if isSpace c then (.blank, cs)
  else if c.isDigit then readNumber (c :: cs)
  else readOther c cs

theorem readPlain_barrier (hb : isBarrier b = true) (c : Char) (cs v : List Char) :
    readPlain c (cs ++ b :: v) = ((readPlain c cs).1, (readPlain c cs).2 ++ b :: v) := by
  unfold readPlain
  split
  · rfl
  · split
    · exact readNumber_barrier hb (c :: cs) v
    · have hword := isWordPart_barrier hb
      have hoperator := operator?_barrier hb (c :: cs) v
      rw [List.cons_append] at hoperator
      unfold readOther readWord
      split
      · rw [← List.cons_append, takeWhile_barrier hword, dropWhile_barrier hword]
      · rw [hoperator]
        cases operator? (c :: cs) <;> rfl

/-- The characters that begin a token of their own kind. -/
def isSpecial (c : Char) : Bool :=
  ['(', ')', ',', ';', '\x27', '\x22', '\x60', '[', '.', '$', '?'].contains c

/-- The pairs of characters that begin a token together. -/
def pairs : List (Char × Char) :=
  [('\r', '\n'), ('-', '-'), ('/', '*'), ('N', '\x27'), ('n', '\x27'), ('X', '\x27'),
    ('x', '\x27')]

/-- Two characters begin a token together. -/
def isPair (c d : Char) : Bool := pairs.contains (c, d)

theorem readToken_plain {c : Char} {cs : List Char} (hspecial : isSpecial c = false)
    (hpair : ∀ d, cs.head? = some d → isPair c d = false) (afterWord : Bool) :
    readToken afterWord c cs = .ok (readPlain c cs) := by
  unfold readToken
  split
  case h_20 =>
    unfold readPlain
    split
    · rfl
    · split <;> rfl
  -- in all other branches a special character or a pair has been read
  all_goals first
    | exact absurd hspecial (by decide)
    | exact absurd (hpair _ rfl) (by decide)

/-- The token at the front could go on behind the text: a carriage return may be followed by a line
feed, and a line comment by more of it. -/
inductive Open : Char → List Char → Prop where
  | carriageReturn : Open '\r' []
  | comment {cs : List Char} (h : '\n' ∉ cs) : Open '-' ('-' :: cs)

theorem ne_newline_of_mem {line : List Char} (h : '\n' ∉ line) :
    ∀ c ∈ line, (c != '\n') = true := by
  intro c hc
  simpa using fun heq : c = '\n' => h (heq ▸ hc)

/-- What follows a line. -/
theorem drop_line {line : List Char} (h : '\n' ∉ line) (v : List Char) :
    ((line ++ '\n' :: v).dropWhile (· != '\n')).drop 1 = v := by
  rw [List.dropWhile_append_of_pos (ne_newline_of_mem h)]
  rfl

theorem readToken_of_open {c : Char} {cs : List Char} (h : Open c cs) (afterWord : Bool) :
    readToken afterWord c cs = .ok (.blank, []) := by
  cases h with
  | carriageReturn => rfl
  | @comment cs h =>
    simp only [readToken, List.dropWhile_eq_nil_iff.mpr (ne_newline_of_mem h)]
    rfl

/-- A line end closes what is open. -/
theorem readToken_newline_of_open {c : Char} {cs : List Char} (h : Open c cs) (afterWord : Bool)
    (v : List Char) : readToken afterWord c (cs ++ '\n' :: v) = .ok (.blank, v) := by
  cases h with
  | carriageReturn => rfl
  | @comment cs h => simp only [readToken, List.cons_append, drop_line h]

/-! ## Pairs of characters -/

theorem stable_lineComment (afterWord : Bool) {cs : List Char} (hclosed : '\n' ∈ cs) :
    Stable b (readToken afterWord '-') ('-' :: cs) := by
  obtain ⟨line, rest, rfl, hline⟩ := List.eq_append_cons_of_mem hclosed
  have hread : ∀ v, readToken afterWord '-' ('-' :: (line ++ '\n' :: v)) = .ok (.blank, v) := by
    intro v
    simp only [readToken, drop_line hline]
  constructor
  · intro token rest' h v
    rw [hread] at h
    cases h
    simpa using hread (rest ++ b :: v)
  · intro e h
    rw [hread] at h
    cases h

theorem stable_blockComment (hb : isBarrier b = true) (afterWord : Bool) (cs : List Char) :
    Stable b (readToken afterWord '/') ('*' :: cs) := by
  have hstable : Stable b (orError (fun cs => (afterComment cs).map fun rest => ((), rest))
      (fun _ => .blank) .unclosedComment) cs := by
    refine stable_orError ?_ ?_ _ _
    · intro _ rest hread v
      obtain ⟨rest', hcomment, heq⟩ := Option.map_eq_some_iff.mp hread
      cases heq
      rw [afterComment_append hcomment]
      rfl
    · intro hread
      rw [afterComment_eq_none_barrier hb (Option.map_eq_none_iff.mp hread)]
      rfl
  refine hstable.shift fun cs => ?_
  simp only [readToken, orError]
  cases afterComment cs <;> rfl

theorem stable_bytes (hb : isBarrier b = true) (afterWord : Bool) {c : Char}
    (hc : c = 'X' ∨ c = 'x') (cs : List Char) :
    Stable b (readToken afterWord c) ('\x27' :: cs) := by
  have hstable : Stable b
      (orError readBytes (fun content => .hex (String.ofList content)) .unclosedText) cs :=
    stable_orError (fun _ _ hread v => readBytes_barrier hb hread v)
      (readBytes_eq_none_barrier hb) _ _
  refine hstable.shift fun cs => ?_
  rcases hc with rfl | rfl
  all_goals
    simp only [readToken, orError]
    cases readBytes cs <;> rfl

theorem stable_pair (hb : isBarrier b = true) {c d : Char} {cs : List Char}
    (hpair : isPair c d = true) (hopen : ¬ Open c (d :: cs)) (afterWord : Bool) :
    Stable b (readToken afterWord c) (d :: cs) := by
  simp only [isPair, pairs, List.contains_iff_mem, List.mem_cons, Prod.mk.injEq, List.not_mem_nil,
    or_false] at hpair
  rcases hpair with ⟨rfl, rfl⟩ | ⟨rfl, rfl⟩ | ⟨rfl, rfl⟩ | ⟨rfl, rfl⟩ | ⟨rfl, rfl⟩ | ⟨rfl, rfl⟩ |
    ⟨rfl, rfl⟩
  · exact (Stable.of_pure (fun cs => (.blank, cs)) fun _ => rfl).shift fun _ => rfl
  · exact stable_lineComment afterWord
      (Decidable.not_not.mp fun hmem => hopen (.comment hmem))
  · exact stable_blockComment hb afterWord cs
  · exact (stable_readText hb .national cs).shift fun _ => rfl
  · exact (stable_readText hb .national cs).shift fun _ => rfl
  · exact stable_bytes hb afterWord (Or.inl rfl) cs
  · exact stable_bytes hb afterWord (Or.inr rfl) cs

theorem readToken_point {cs : List Char} (h : cs.head? ≠ some '_') (afterWord : Bool) :
    readToken afterWord '.' cs = .ok (readNumber ('.' :: cs)) := by
  cases cs with
  | nil => rfl
  | cons d cs =>
    rw [readToken]
    intro rest heq
    cases heq
    exact h rfl

theorem stable_point (hb : isBarrier b = true) (afterWord : Bool) (cs : List Char) :
    Stable b (readToken afterWord '.') cs := by
  have hunderscore : b ≠ '_' := forall_barrier (p := fun c => c ≠ '_') (by decide) hb
  by_cases hcs : cs.head? = some '_'
  · obtain ⟨rest, rfl⟩ := List.head?_eq_some_iff.mp hcs
    cases afterWord with
    | true => exact (Stable.of_pure (fun cs => (.period, '_' :: cs)) fun _ => rfl).shift fun _ => rfl
    | false => exact ⟨fun token rest h => (by cases h), fun e h => h⟩
  · have hnumber : ∀ v, (cs ++ b :: v).head? ≠ some '_' := by
      intro v
      cases cs with
      | nil => simpa using hunderscore
      | cons d cs => simpa using hcs
    have hread := fun v => readNumber_barrier hb ('.' :: cs) v
    constructor
    · intro token rest h v
      rw [readToken_point hcs] at h
      injection h with h
      rw [readToken_point (hnumber v), ← List.cons_append, hread, h]
    · intro e h
      rw [readToken_point hcs] at h
      cases h

theorem stable_special (hb : isBarrier b = true) {c : Char} (hspecial : isSpecial c = true)
    (afterWord : Bool) (cs : List Char) : Stable b (readToken afterWord c) cs := by
  have hplaceholder := isPlaceholderPart_barrier hb
  have hnumeric := isNumeric_barrier hb
  simp only [isSpecial, List.contains_iff_mem, List.mem_cons, List.not_mem_nil, or_false]
    at hspecial
  rcases hspecial with rfl | rfl | rfl | rfl | rfl | rfl | rfl | rfl | rfl | rfl | rfl
  · exact Stable.of_pure (fun cs => (.leftParen, cs)) fun _ => rfl
  · exact Stable.of_pure (fun cs => (.rightParen, cs)) fun _ => rfl
  · exact Stable.of_pure (fun cs => (.comma, cs)) fun _ => rfl
  · exact Stable.of_pure (fun cs => (.semicolon, cs)) fun _ => rfl
  · exact stable_readText hb .text cs
  · exact stable_readIdentifier (forall_barrier (p := fun c => c ≠ '\x22') (by decide) hb) cs
  · exact stable_readIdentifier (forall_barrier (p := fun c => c ≠ '\x60') (by decide) hb) cs
  · exact stable_readIdentifier (forall_barrier (p := fun c => c ≠ ']') (by decide) hb) cs
  · exact stable_point hb afterWord cs
  · refine Stable.of_pure (fun cs =>
      (.placeholder (String.ofList ('$' :: cs.takeWhile isPlaceholderPart)),
        cs.dropWhile isPlaceholderPart)) fun v => ?_
    simp only [takeWhile_barrier hplaceholder, dropWhile_barrier hplaceholder]
  · refine Stable.of_pure (fun cs =>
      (.placeholder (String.ofList ('?' :: cs.takeWhile Text.isNumeric)),
        cs.dropWhile Text.isNumeric)) fun v => ?_
    simp only [takeWhile_barrier hnumeric, dropWhile_barrier hnumeric]

theorem eq_of_isPair_barrier (hb : isBarrier b = true) {c : Char} (h : isPair c b = true) :
    c = '\r' := by
  have hpairs : (pairs.all fun pair => !isBarrier pair.2 || pair.1 == '\r') = true := by decide
  have hpair := List.all_eq_true.mp hpairs (c, b) (by simpa [isPair] using h)
  simpa [hb] using hpair

/-- Unless the token at the front is open, it is read in the same way before a barrier. -/
theorem stable_readToken (hb : isBarrier b = true) {c : Char} {cs : List Char}
    (hopen : ¬ Open c cs) (afterWord : Bool) : Stable b (readToken afterWord c) cs := by
  by_cases hspecial : isSpecial c = true
  · exact stable_special hb hspecial afterWord cs
  by_cases hpair : ∃ d rest, cs = d :: rest ∧ isPair c d = true
  · obtain ⟨d, rest, rfl, hpair⟩ := hpair
    exact stable_pair hb hpair hopen afterWord
  have hsingle : ∀ d, cs.head? = some d → isPair c d = false := by
    intro d hd
    obtain ⟨rest, rfl⟩ := List.head?_eq_some_iff.mp hd
    exact Bool.eq_false_iff.mpr fun h => hpair ⟨d, rest, rfl, h⟩
  have hsingle' : ∀ v d, (cs ++ b :: v).head? = some d → isPair c d = false := by
    intro v d hd
    cases cs with
    | nil =>
      obtain rfl : b = d := by simpa using hd
      refine Bool.eq_false_iff.mpr fun h => hopen ?_
      rw [eq_of_isPair_barrier hb h]
      exact .carriageReturn
    | cons e cs => exact hsingle d (by simpa using hd)
  rw [Bool.not_eq_true] at hspecial
  constructor
  · intro token rest h v
    rw [readToken_plain hspecial hsingle] at h
    injection h with h
    rw [readToken_plain hspecial (hsingle' v), readPlain_barrier hb, h]
  · intro e h
    rw [readToken_plain hspecial hsingle] at h
    cases h

/-! ## Runs -/

/-- The tokens at the front of a text, and what is left behind them.  The flags tell whether the
token just before is a word. -/
inductive Lexed : Bool → List Char → List Token → Bool → List Char → Prop where
  | done {afterWord : Bool} {cs : List Char} : Lexed afterWord cs [] afterWord cs
  | token {afterWord afterWord' : Bool} {c : Char} {cs rest rest' : List Char} {token : Token}
      {tokens : List Token} (hread : readToken afterWord c cs = .ok (token, rest))
      (hrest : Lexed token.isWord rest tokens afterWord' rest') :
      Lexed afterWord (c :: cs) (token :: tokens) afterWord' rest'

namespace Lexed

variable {w w' w'' : Bool} {cs rest rest' : List Char} {ts ts' : List Token}

theorem append (h : Lexed w cs ts w' rest) (h' : Lexed w' rest ts' w'' rest') :
    Lexed w cs (ts ++ ts') w'' rest' := by
  induction h with
  | done => exact h'
  | token hread _ ih => exact .token hread (ih h')

theorem single {c : Char} {token : Token} (h : readToken w c cs = .ok (token, rest)) :
    Lexed w (c :: cs) [token] token.isWord rest := .token h .done

theorem eq_nil (h : Lexed w [] ts w' rest) : ts = [] ∧ rest = [] := by
  cases h
  exact ⟨rfl, rfl⟩

/-- A run that has not reached the end of the text, or that does not end with a blank, is the same
before a barrier. -/
theorem barrier (hb : isBarrier b = true) (h : Lexed w cs ts w' rest)
    (hend : rest ≠ [] ∨ ts.getLast? ≠ some .blank) (v : List Char) :
    Lexed w (cs ++ b :: v) ts w' (rest ++ b :: v) := by
  induction h with
  | done => exact .done
  | @token w w' c cs rest rest' token ts hread hrest ih =>
    have hopen : ¬ Open c cs := by
      intro hopen
      rw [readToken_of_open hopen] at hread
      cases hread
      obtain ⟨rfl, rfl⟩ := hrest.eq_nil
      simp at hend
    refine .token ((stable_readToken hb hopen w).ok _ _ hread v) (ih ?_)
    rcases hend with hend | hend
    · exact Or.inl hend
    · cases ts with
      | nil => exact Or.inr (by simp)
      | cons t ts => exact Or.inr (by simpa using hend)

/-- A run to the end of a text goes on behind a line end as at the beginning of a text.  The line
end is a blank of its own, or belongs to the last blank. -/
theorem newline (h : Lexed w cs ts w' []) (v : List Char) :
    ∃ ts', Lexed w (cs ++ '\n' :: v) ts' false v ∧ (ts' = ts ++ [.blank] ∨ ts' = ts) := by
  generalize hrest' : ([] : List Char) = rest at h
  induction h with
  | done =>
    subst hrest'
    exact ⟨[.blank], single rfl, Or.inl rfl⟩
  | @token w w' c cs rest rest' token ts hread hrest ih =>
    by_cases hopen : Open c cs
    · rw [readToken_of_open hopen] at hread
      cases hread
      obtain ⟨rfl, rfl⟩ := hrest.eq_nil
      exact ⟨[.blank], single (readToken_newline_of_open hopen w v), Or.inr rfl⟩
    · obtain ⟨ts', hts', hsame⟩ := ih hrest'
      refine ⟨token :: ts', .token ((stable_readToken rfl hopen w).ok _ _ hread v) hts', ?_⟩
      rcases hsame with rfl | rfl
      · exact Or.inl rfl
      · exact Or.inr rfl

end Lexed

/-! ## Runs that get stuck -/

/-- A run that meets an error on its way. -/
def Stuck (afterWord : Bool) (cs : List Char) (e : LexError) : Prop :=
  ∃ ts w c rest, Lexed afterWord cs ts w (c :: rest) ∧ readToken w c rest = .error e

theorem Stuck.token {w : Bool} {c : Char} {cs rest : List Char} {token : Token} {e : LexError}
    (hread : readToken w c cs = .ok (token, rest)) (h : Stuck token.isWord rest e) :
    Stuck w (c :: cs) e := by
  obtain ⟨ts, w', d, rest', hlexed, herror⟩ := h
  exact ⟨token :: ts, w', d, rest', .token hread hlexed, herror⟩

/-- The tokens of a text are those of a run to its end; if there is none, a run gets stuck. -/
theorem readTokens_spec {steps : Nat} {cs : List Char} (h : cs.length ≤ steps) (w : Bool) :
    match readTokens steps w cs with
    | .ok ts => ∃ w', Lexed w cs ts w' []
    | .error e => Stuck w cs e := by
  induction steps generalizing w cs with
  | zero =>
    obtain rfl := List.length_eq_zero_iff.mp (Nat.le_zero.mp h)
    exact ⟨w, .done⟩
  | succ steps ih =>
    cases cs with
    | nil => exact ⟨w, .done⟩
    | cons c cs =>
      rw [readTokens]
      cases hread : readToken w c cs with
      | error e => exact ⟨[], w, c, cs, .done, hread⟩
      | ok result =>
        obtain ⟨token, rest⟩ := result
        have hlength : rest.length ≤ steps := by
          have := (suffix_of_readToken hread).length_le
          simp only [List.length_cons] at h
          omega
        have hrest := ih hlength token.isWord
        simp only [bind, Except.bind]
        cases hrun : readTokens steps token.isWord rest with
        | error e =>
          rw [hrun] at hrest
          exact hrest.token hread
        | ok ts =>
          rw [hrun] at hrest
          obtain ⟨w', hlexed⟩ := hrest
          exact ⟨w', .token hread hlexed⟩

/-- A run that gets stuck is the only run. -/
theorem Lexed.not_stuck {w w' : Bool} {cs : List Char} {ts : List Token} {e : LexError}
    (h : Lexed w cs ts w' []) : ¬ Stuck w cs e := by
  generalize hrest' : ([] : List Char) = rest at h
  induction h with
  | done =>
    subst hrest'
    rintro ⟨ts, w', c, rest, hlexed, -⟩
    cases hlexed.eq_nil.2
  | @token w w' c cs rest rest' token ts hread hrest ih =>
    rintro ⟨ts', w'', d, rest'', hlexed, herror⟩
    cases hlexed with
    | done =>
      rw [hread] at herror
      cases herror
    | token hread' hlexed' =>
      rw [hread] at hread'
      cases hread'
      exact ih hrest' ⟨_, _, _, _, hlexed', herror⟩

/-- Two runs to the end of a text find the same tokens. -/
theorem Lexed.tokens_unique {w w' w'' : Bool} {cs : List Char} {ts ts' : List Token}
    (h : Lexed w cs ts w' []) (h' : Lexed w cs ts' w'' []) : ts = ts' := by
  generalize hrest' : ([] : List Char) = rest at h
  induction h generalizing ts' with
  | done =>
    subst hrest'
    exact h'.eq_nil.1.symm
  | token hread _ ih =>
    cases h' with
    | token hread' hrest'' =>
      rw [hread] at hread'
      cases hread'
      rw [ih hrest'' hrest']

/-- A text that gets stuck does so before a line end as well. -/
theorem Stuck.newline {w : Bool} {cs : List Char} {e : LexError} (h : Stuck w cs e) :
    Stuck w (cs ++ ['\n']) e := by
  obtain ⟨ts, w', c, rest, hlexed, herror⟩ := h
  have hopen : ¬ Open c rest := by
    intro hopen
    rw [readToken_of_open hopen] at herror
    cases herror
  exact ⟨ts, w', c, rest ++ ['\n'], hlexed.barrier rfl (Or.inl (by simp)) [],
    (stable_readToken rfl hopen w').error _ herror⟩

end Lexer

theorem tokenize_eq_ok_iff {cs : List Char} {ts : List Token} :
    tokenize cs = .ok ts ↔ ∃ w, Lexer.Lexed false cs ts w [] := by
  have hspec := Lexer.readTokens_spec (le_refl cs.length) false
  unfold tokenize
  constructor
  · intro h
    rwa [h] at hspec
  · rintro ⟨w, hlexed⟩
    cases hrun : Lexer.readTokens cs.length false cs with
    | error e =>
      rw [hrun] at hspec
      exact absurd hspec hlexed.not_stuck
    | ok ts' =>
      rw [hrun] at hspec
      obtain ⟨w', hlexed'⟩ := hspec
      rw [hlexed.tokens_unique hlexed']

/-- The tokens of a text on lines of its own, before more text. -/
theorem tokenize_newline {cs : List Char} {ts : List Token} (h : tokenize cs = .ok ts)
    {v : List Char} {ts' : List Token} (h' : tokenize v = .ok ts') :
    tokenize (cs ++ '\n' :: v) = .ok (ts ++ .blank :: ts') ∨
      tokenize (cs ++ '\n' :: v) = .ok (ts ++ ts') := by
  obtain ⟨w, hlexed⟩ := tokenize_eq_ok_iff.mp h
  obtain ⟨w', hlexed'⟩ := tokenize_eq_ok_iff.mp h'
  obtain ⟨ts'', hline, rfl | rfl⟩ := hlexed.newline v
  · refine Or.inl (tokenize_eq_ok_iff.mpr ⟨w', ?_⟩)
    simpa using hline.append hlexed'
  · exact Or.inr (tokenize_eq_ok_iff.mpr ⟨w', hline.append hlexed'⟩)

/-- If a text with a line end has tokens, so has the text without it. -/
theorem exists_tokenize_of_newline {cs : List Char} {ts : List Token}
    (h : tokenize (cs ++ ['\n']) = .ok ts) : ∃ ts', tokenize cs = .ok ts' := by
  obtain ⟨w, hlexed⟩ := tokenize_eq_ok_iff.mp h
  have hspec := Lexer.readTokens_spec (le_refl cs.length) false
  unfold tokenize
  cases hrun : Lexer.readTokens cs.length false cs with
  | ok ts' => exact ⟨ts', rfl⟩
  | error e =>
    rw [hrun] at hspec
    exact absurd (Lexer.Stuck.newline hspec) hlexed.not_stuck

end Conformance.Sql
