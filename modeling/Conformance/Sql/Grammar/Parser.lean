import Conformance.Sql.Token

set_option autoImplicit false

/-!
# Parsers over tokens

A parser reads a statement's tokens from the front, passing over white space and comments, and
leaves the rest.  It fails in one of two ways: at an unexpected token, or because expressions and
queries are nested too deeply.  Only the first failure may be recovered from by trying another
reading.  The combinators below repeat a parser at most once per remaining token, so that every
parser ends.  White space and comments at the end of the tokens make no difference to any of them.
-/

namespace Conformance.Sql

/-- How reading a statement fails. -/
inductive Failure where
  | unexpected
  | tooDeep
  deriving DecidableEq, Repr

/-- The second tokens are the first with white space and comments added at the end. -/
def Padded (ts ts' : List Token) : Prop := ∃ n, ts' = ts ++ List.replicate n .blank

namespace Padded

variable {ts ts' : List Token}

theorem refl (ts : List Token) : Padded ts ts := ⟨0, by simp⟩

/-- Behind the blanks at the front there is either nothing or the same token. -/
theorem dropWhile_isBlank (h : Padded ts ts') :
    (ts.dropWhile Token.isBlank = [] ∧ ts'.dropWhile Token.isBlank = []) ∨
      ∃ t rest rest', ts.dropWhile Token.isBlank = t :: rest ∧
        ts'.dropWhile Token.isBlank = t :: rest' ∧ Padded rest rest' := by
  obtain ⟨n, rfl⟩ := h
  rw [List.dropWhile_append]
  cases hts : ts.dropWhile Token.isBlank with
  | nil => simp [Token.isBlank]
  | cons t rest => exact .inr ⟨t, rest, _, rfl, rfl, n, rfl⟩

theorem filter_isBlank (h : Padded ts ts') :
    ts'.filter (fun t => !t.isBlank) = ts.filter fun t => !t.isBlank := by
  obtain ⟨n, rfl⟩ := h
  simp [Token.isBlank]

end Padded

/-- Two outcomes of reading that differ at most in the blanks at the end of what is left. -/
inductive SameOutcome {α : Type} :
    Except Failure (α × List Token) → Except Failure (α × List Token) → Prop where
  | ok (a : α) {rest rest' : List Token} (h : Padded rest rest') :
      SameOutcome (.ok (a, rest)) (.ok (a, rest'))
  | error (failure : Failure) : SameOutcome (.error failure) (.error failure)

theorem SameOutcome.ok_or_error {α : Type} {r r' : Except Failure (α × List Token)}
    (h : SameOutcome r r') :
    (∃ a rest rest', r = .ok (a, rest) ∧ r' = .ok (a, rest') ∧ Padded rest rest') ∨
      ∃ failure, r = .error failure ∧ r' = .error failure := by
  cases h with
  | ok a h => exact .inl ⟨a, _, _, rfl, rfl, h⟩
  | error failure => exact .inr ⟨failure, rfl, rfl⟩

/-- A reader of tokens.  It leaves the tokens it did not use, which are the end of those it was
given, and does not mind white space and comments behind them. -/
structure Parser (α : Type) where
  run : List Token → Except Failure (α × List Token)
  suffix_of_run : ∀ {ts : List Token} {a : α} {rest : List Token},
    run ts = .ok (a, rest) → rest <:+ ts
  run_padded : ∀ {ts ts' : List Token}, Padded ts ts' → SameOutcome (run ts) (run ts')

namespace Parser

variable {α β σ : Type}

/-- Reads nothing. -/
def succeed (a : α) : Parser α where
  run ts := .ok (a, ts)
  suffix_of_run h := by
    cases h
    exact List.suffix_refl _
  run_padded h := .ok a h

/-- Reads with the first parser, then with the one its result gives. -/
def andThen (p : Parser α) (f : α → Parser β) : Parser β where
  run ts :=
    match p.run ts with
    | .ok (a, rest) => (f a).run rest
    | .error failure => .error failure
  suffix_of_run h := by
    split at h
    · next hp => exact ((f _).suffix_of_run h).trans (p.suffix_of_run hp)
    · cases h
  run_padded h := by
    obtain ⟨a, _, _, hp, hp', hrest⟩ | ⟨failure, hp, hp'⟩ := (p.run_padded h).ok_or_error
    · simp only [hp, hp']
      exact (f a).run_padded hrest
    · simp only [hp, hp']
      exact .error failure

instance : Monad Parser where
  pure := succeed
  bind := andThen

/-- Fails in a given way. -/
def fail (failure : Failure) : Parser α where
  run _ := .error failure
  suffix_of_run h := by cases h
  run_padded _ := .error failure

/-- Fails at the next token. -/
def unexpected : Parser α := fail .unexpected

/-- Fails because of nesting. -/
def tooDeep : Parser α := fail .tooDeep

/-- A parser that is put together when it runs, for a number of repetitions that is larger than the
number of tokens ahead that are neither white space nor comments. -/
def bounded (p : Nat → Parser α) : Parser α where
  run ts := (p ((ts.filter fun t => !t.isBlank).length + 1)).run ts
  suffix_of_run h := (p _).suffix_of_run h
  run_padded h := by
    rw [h.filter_isBlank]
    exact (p _).run_padded h

/-- A parser that is put together only when it runs. -/
def delayed (p : Unit → Parser α) : Parser α where
  run ts := (p ()).run ts
  suffix_of_run h := (p ()).suffix_of_run h
  run_padded h := (p ()).run_padded h

/-- The parser, or nothing read where it meets an unexpected token. -/
def attempt (p : Parser α) : Parser (Option α) where
  run ts :=
    match p.run ts with
    | .ok (a, rest) => .ok (some a, rest)
    | .error .unexpected => .ok (none, ts)
    | .error .tooDeep => .error .tooDeep
  suffix_of_run h := by
    split at h
    · next hp =>
      cases h
      exact p.suffix_of_run hp
    · cases h
      exact List.suffix_refl _
    · cases h
  run_padded h := by
    obtain ⟨a, _, _, hp, hp', hrest⟩ | ⟨failure, hp, hp'⟩ := (p.run_padded h).ok_or_error
    · simp only [hp, hp']
      exact .ok (some a) hrest
    · simp only [hp, hp']
      cases failure with
      | unexpected => exact .ok none h
      | tooDeep => exact .error .tooDeep

/-- The first parser, or the second where the first fails in whatever way; if both fail, with the
failure of the first. -/
def orElse (p q : Parser α) : Parser α where
  run ts :=
    match p.run ts with
    | .ok result => .ok result
    | .error failure =>
      match q.run ts with
      | .ok result => .ok result
      | .error _ => .error failure
  suffix_of_run h := by
    split at h
    · next hp =>
      cases h
      exact p.suffix_of_run hp
    · split at h
      · next hq =>
        cases h
        exact q.suffix_of_run hq
      · cases h
  run_padded h := by
    obtain ⟨a, _, _, hp, hp', hrest⟩ | ⟨failure, hp, hp'⟩ := (p.run_padded h).ok_or_error
    · simp only [hp, hp']
      exact .ok a hrest
    · obtain ⟨a, _, _, hq, hq', hrest⟩ | ⟨_, hq, hq'⟩ := (q.run_padded h).ok_or_error
      · simp only [hp, hp', hq, hq']
        exact .ok a hrest
      · simp only [hp, hp', hq, hq']
        exact .error failure

/-- The parser, with nothing kept of what it reads. -/
def void (p : Parser α) : Parser Unit := andThen p fun _ => succeed ()

/-- The parser, with nothing read where it yields none. -/
def orNothing (p : Parser (Option α)) : Parser (Option α) where
  run ts :=
    match p.run ts with
    | .ok (some a, rest) => .ok (some a, rest)
    | .ok (none, _) => .ok (none, ts)
    | .error failure => .error failure
  suffix_of_run h := by
    split at h
    · next hp =>
      cases h
      exact p.suffix_of_run hp
    · cases h
      exact List.suffix_refl _
    · cases h
  run_padded h := by
    obtain ⟨a?, _, _, hp, hp', hrest⟩ | ⟨failure, hp, hp'⟩ := (p.run_padded h).ok_or_error
    · simp only [hp, hp']
      cases a? with
      | some a => exact .ok (some a) hrest
      | none => exact .ok none h
    · simp only [hp, hp']
      exact .error failure

/-- The parser run on the tokens ahead, which are left in place. -/
def lookAhead (p : Parser α) : Parser α where
  run ts :=
    match p.run ts with
    | .ok (a, _) => .ok (a, ts)
    | .error failure => .error failure
  suffix_of_run h := by
    split at h
    · cases h
      exact List.suffix_refl _
    · cases h
  run_padded h := by
    obtain ⟨a, _, _, hp, hp', -⟩ | ⟨failure, hp, hp'⟩ := (p.run_padded h).ok_or_error
    · simp only [hp, hp']
      exact .ok a h
    · simp only [hp, hp']
      exact .error failure

/-- What follows the first token that is neither white space nor a comment. -/
theorem suffix_of_dropWhile_eq_cons {ts rest : List Token} {t : Token}
    (h : ts.dropWhile Token.isBlank = t :: rest) : rest <:+ ts :=
  (List.suffix_cons t rest).trans (h ▸ List.dropWhile_suffix _)

/-- The next token, if there is one. -/
def next? : Parser (Option Token) where
  run ts :=
    match ts.dropWhile Token.isBlank with
    | [] => .ok (none, [])
    | t :: rest => .ok (some t, rest)
  suffix_of_run h := by
    split at h
    · cases h
      exact List.nil_suffix
    · next hts =>
      cases h
      exact suffix_of_dropWhile_eq_cons hts
  run_padded h := by
    obtain ⟨hts, hts'⟩ | ⟨t, _, _, hts, hts', hrest⟩ := h.dropWhile_isBlank
    · simp only [hts, hts']
      exact .ok none (.refl [])
    · simp only [hts, hts']
      exact .ok (some t) hrest

/-- The next token, left in place. -/
def peek? : Parser (Option Token) := lookAhead next?

/-- The token that directly follows, without white space in between; none if there is white space
or a comment. -/
def adjacent? : Parser (Option Token) where
  run
    | [] => .ok (none, [])
    | t :: rest => if t.isBlank then .ok (none, t :: rest) else .ok (some t, rest)
  suffix_of_run h := by
    split at h
    · cases h
      exact List.suffix_refl _
    · split at h
      · cases h
        exact List.suffix_refl _
      · cases h
        exact List.suffix_cons _ _
  run_padded := by
    rintro ts _ ⟨n, rfl⟩
    cases ts with
    | nil =>
      cases n with
      | zero => exact .ok none (.refl [])
      | succ n => exact .ok none ⟨n + 1, rfl⟩
    | cons t rest =>
      rw [List.cons_append]
      dsimp only
      split
      · exact .ok none ⟨n, rfl⟩
      · exact .ok (some t) ⟨n, rfl⟩

/-- Nothing but white space and comments is left. -/
def atEnd : Parser Bool := do
  return (← peek?).isNone

/-- Passes over the next token if the test accepts it, and tells whether it did. -/
def accept (test : Token → Bool) : Parser Bool where
  run ts :=
    match ts.dropWhile Token.isBlank with
    | [] => .ok (false, ts)
    | t :: rest => if test t then .ok (true, rest) else .ok (false, ts)
  suffix_of_run h := by
    split at h
    · cases h
      exact List.suffix_refl _
    · next hts =>
      split at h
      · cases h
        exact suffix_of_dropWhile_eq_cons hts
      · cases h
        exact List.suffix_refl _
  run_padded h := by
    obtain ⟨hts, hts'⟩ | ⟨t, _, _, hts, hts', hrest⟩ := h.dropWhile_isBlank
    · simp only [hts, hts']
      exact .ok false h
    · simp only [hts, hts']
      split
      · exact .ok true hrest
      · exact .ok false h

/-- Passes over the given token if it is next. -/
def token (t : Token) : Parser Bool := accept (· == t)

/-- Passes over a keyword if it is next. -/
def keyword (k : Keyword) : Parser Bool := accept fun t => t.keyword? == some k

/-- Passes over one of some keywords if it is next, and tells which. -/
def oneOf (ks : List Keyword) : Parser (Option Keyword) where
  run ts :=
    match ts.dropWhile Token.isBlank with
    | [] => .ok (none, ts)
    | t :: rest =>
      match t.keyword? with
      | some k => if ks.contains k then .ok (some k, rest) else .ok (none, ts)
      | none => .ok (none, ts)
  suffix_of_run h := by
    split at h
    · cases h
      exact List.suffix_refl _
    · next hts =>
      split at h
      · split at h
        · cases h
          exact suffix_of_dropWhile_eq_cons hts
        · cases h
          exact List.suffix_refl _
      · cases h
        exact List.suffix_refl _
  run_padded h := by
    obtain ⟨hts, hts'⟩ | ⟨t, _, _, hts, hts', hrest⟩ := h.dropWhile_isBlank
    · simp only [hts, hts']
      exact .ok none h
    · simp only [hts, hts']
      split
      · split
        · exact .ok (some _) hrest
        · exact .ok none h
      · exact .ok none h

/-- Passes over one of some keywords if it is next. -/
def anyOf (ks : List Keyword) : Parser Bool := do
  return (← oneOf ks).isSome

/-- Passes over the given token if it is next, whether or not it is there. -/
def skipToken (t : Token) : Parser Unit := void (token t)

/-- Passes over one of some keywords if it is next, whether or not it is there. -/
def skip (ks : List Keyword) : Parser Unit := void (oneOf ks)

/-- The next token spells one of some keywords. -/
def ahead (ks : List Keyword) : Parser Bool := lookAhead (anyOf ks)

/-- Requires the given token. -/
def expect (t : Token) : Parser Unit := do
  unless ← token t do unexpected

/-- Requires a keyword. -/
def need (k : Keyword) : Parser Unit := do
  unless ← keyword k do unexpected

/-- Requires keywords in a row. -/
def needAll : List Keyword → Parser Unit
  | [] => succeed ()
  | k :: ks => do need k; needAll ks

/-- Passes over keywords in a row if all of them are next. -/
def phrase (ks : List Keyword) : Parser Bool := do
  return (← attempt (needAll ks)).isSome

/-- One of several rows of keywords, if one is next. -/
def onePhrase : List (List Keyword) → Parser Bool
  | [] => succeed false
  | ks :: rest => do if ← phrase ks then return true else onePhrase rest

/-- Passes over keywords in a row if all of them are next, whether or not they are there. -/
def skipPhrase (ks : List Keyword) : Parser Unit := void (phrase ks)

/-- The next tokens spell these keywords in a row. -/
def phraseAhead (ks : List Keyword) : Parser Bool := lookAhead (phrase ks)

/-- Requires one of some keywords. -/
def needOneOf (ks : List Keyword) : Parser Keyword := do
  match ← oneOf ks with
  | some k => return k
  | none => unexpected

/-- Repeats a step from state to state until it yields none, at most `fuel` times. -/
def iterateFor (step : σ → Parser (Option σ)) : Nat → σ → Parser σ
  | 0, _ => unexpected
  | fuel + 1, s => do
    match ← step s with
    | some s => iterateFor step fuel s
    | none => return s

/-- Repeats a step from state to state until it yields none.  Each repetition has to use a token. -/
def iterate (step : σ → Parser (Option σ)) (s : σ) : Parser σ :=
  bounded fun fuel => iterateFor step fuel s

/-- Repeats a parser for as long as it yields true. -/
def whileTrue (p : Parser Bool) : Parser Unit :=
  iterate (fun _ => do return if ← p then some () else none) ()

/-- One or more of a kind, with commas in between. -/
def commaSeparated (p : Parser α) : Parser (List α) := do
  let first ← p
  let items ← iterate (fun items => do
    if ← token .comma then return some ((← p) :: items) else return none) [first]
  return items.reverse

/-- One or more of a kind, with commas in between and nothing kept of them. -/
def listOf (p : Parser α) : Parser Unit := void (commaSeparated p)

/-- A parser between parentheses. -/
def parenthesized (p : Parser α) : Parser α := do
  expect .leftParen
  let a ← p
  expect .rightParen
  return a

/-- A parenthesis opens. -/
def parenthesisAhead : Parser Bool := lookAhead (token .leftParen)

/-- One or more of a kind between parentheses. -/
def listIn (p : Parser α) : Parser Unit := parenthesized (listOf p)

/-- Any number of a kind between parentheses. -/
def listOrNoneIn (p : Parser α) : Parser Unit := parenthesized do
  unless ← lookAhead (token .rightParen) do listOf p

/-- A parser after a keyword, if the keyword is next. -/
def after (k : Keyword) (p : Parser α) : Parser (Option α) := do
  if ← keyword k then return some (← p) else return none

/-- A clause that begins with a keyword, if the keyword is next. -/
def clause (k : Keyword) (p : Parser α) : Parser Unit := void (after k p)

/-- A clause that begins with keywords in a row, if they are next. -/
def phraseClause (ks : List Keyword) (p : Parser α) : Parser Unit := do
  if ← phrase ks then void p

/-- The tokens before the rest that are neither white space nor comments. -/
def used (ts rest : List Token) : List Token :=
  (ts.take (ts.length - rest.length)).filter fun t => !t.isBlank

theorem used_append (front rest : List Token) :
    used (front ++ rest) rest = front.filter fun t => !t.isBlank := by
  simp [used]

theorem used_padded {ts ts' rest rest' : List Token} (h : Padded ts ts') (hrest : Padded rest rest')
    (hsuffix : rest <:+ ts) (hsuffix' : rest' <:+ ts') : used ts' rest' = used ts rest := by
  obtain ⟨front, rfl⟩ := hsuffix
  obtain ⟨front', rfl⟩ := hsuffix'
  have hfilter := h.filter_isBlank
  rw [List.filter_append, List.filter_append, hrest.filter_isBlank] at hfilter
  rw [used_append, used_append, List.append_cancel_right hfilter]

/-- The parser together with the last token it used, if it used any. -/
def withLastToken (p : Parser α) : Parser (α × Option Token) where
  run ts :=
    match p.run ts with
    | .ok (a, rest) => .ok ((a, (used ts rest).getLast?), rest)
    | .error failure => .error failure
  suffix_of_run h := by
    split at h
    · next hp =>
      cases h
      exact p.suffix_of_run hp
    · cases h
  run_padded h := by
    obtain ⟨a, _, _, hp, hp', hrest⟩ | ⟨failure, hp, hp'⟩ := (p.run_padded h).ok_or_error
    · simp only [hp, hp', used_padded h hrest (p.suffix_of_run hp) (p.suffix_of_run hp')]
      exact .ok _ hrest
    · simp only [hp, hp']
      exact .error failure

end Parser

end Conformance.Sql
