import Conformance.Proofs.Schema.Verdict
import Conformance.Proofs.Script.Preamble

set_option autoImplicit false

/-!
# What is left over behind a statement

A parser takes tokens from the front and leaves an end of what it was given, and of each piece of a
schema one statement is read in this way.  So a piece of an accepted schema that begins with
`CREATE` has a front that is read as a statement.  The tokens behind it are not looked at: the
piece need not be complete, as `leftover_accepted` shows, where a semicolon is missing between a
definition and another one that is broken off.
-/

namespace Conformance

open Sql (Token Word Creates pieceTables statementPieces leadsWithCreate significant tokenize)
open Sql.Grammar (Level Statement createBody levels maxDepth statementBody tableChange)
open Sql.Parser (andThen delayed lookAhead next? peek? succeed void)

namespace Sql

/-! ## The front of a piece -/

theorem run_next? {blanks rest : List Token} {token : Token}
    (hblanks : ∀ t ∈ blanks, t.isBlank = true) (htoken : token.isBlank = false) :
    next?.run (blanks ++ token :: rest) = .ok (some token, rest) := by
  have hdrop : (blanks ++ token :: rest).dropWhile Token.isBlank = token :: rest := by
    rw [List.dropWhile_append_of_pos hblanks, List.dropWhile_cons_of_neg (by simp [htoken])]
  simp only [next?, hdrop]

theorem run_peek? {blanks rest : List Token} {token : Token}
    (hblanks : ∀ t ∈ blanks, t.isBlank = true) (htoken : token.isBlank = false) :
    peek?.run (blanks ++ token :: rest) = .ok (some token, blanks ++ token :: rest) := by
  simp only [peek?, lookAhead, run_next? hblanks htoken]

/-- A statement that begins with `CREATE` is a definition, which is read behind the word. -/
theorem run_statementBody_create (level : Level) {blanks rest : List Token} {word : Word}
    (hblanks : ∀ t ∈ blanks, t.isBlank = true) :
    (statementBody level).run (blanks ++ .word word (some .CREATE) :: rest) =
      (createBody level (tableChange level)).run rest := by
  have hpeek : peek?.run (blanks ++ .word word (some .CREATE) :: rest) =
      .ok (some (.word word (some .CREATE)), blanks ++ .word word (some .CREATE) :: rest) :=
    run_peek? hblanks rfl
  have hnext : next?.run (blanks ++ .word word (some .CREATE) :: rest) =
      .ok (some (.word word (some .CREATE)), rest) :=
    run_next? hblanks rfl
  simp only [statementBody, bind, andThen, hpeek, void, hnext, succeed]

/-- The statement at the front of a piece, with the tokens behind it. -/
theorem readable_iff {piece : List Token} :
    Readable piece ↔
      ∃ statement rest, (levels maxDepth).statement.run piece = .ok (statement, rest) := by
  simp only [Readable, read?_eq_ok_iff]

/-- The statement that is read from a piece uses up all of it but white space and comments. -/
def Complete (piece : List Token) : Prop :=
  ∃ statement rest, (levels maxDepth).statement.run piece = .ok (statement, rest) ∧
    significant rest = []

/-- Tokens that are neither white space nor comments are left over behind the statement. -/
def leavesTokens (piece : List Token) : Bool :=
  match (levels maxDepth).statement.run piece with
  | .ok (_, rest) => significant rest ≠ []
  | .error _ => false

theorem complete_iff_of_run {piece rest : List Token} {statement : Statement}
    (h : (levels maxDepth).statement.run piece = .ok (statement, rest)) :
    Complete piece ↔ significant rest = [] := by
  constructor
  · rintro ⟨_, _, hrun, hrest⟩
    rw [h] at hrun
    cases hrun
    exact hrest
  · exact fun hrest => ⟨statement, rest, h, hrest⟩

theorem not_complete_of_leavesTokens {piece : List Token} (h : leavesTokens piece = true) :
    ¬ Complete piece := by
  unfold leavesTokens at h
  split at h
  · next hrun =>
    rw [complete_iff_of_run hrun]
    simpa using h
  · cases h

/-- A readable piece that begins with `CREATE`: the word, the rest of the statement, and what is
left over. -/
theorem exists_front_of_create {piece : List Token} (hcreate : leadsWithCreate piece = true)
    (hread : Readable piece) :
    ∃ blanks word front rest statement,
      piece = blanks ++ .word word (some .CREATE) :: (front ++ rest) ∧
      (∀ t ∈ blanks, t.isBlank = true) ∧
      (levels maxDepth).statement.run piece = .ok (statement, rest) := by
  obtain ⟨blanks, word, behind, rfl, hblanks⟩ := leadsWithCreate_iff.mp hcreate
  obtain ⟨statement, rest, hrun⟩ := readable_iff.mp hread
  -- the definition is read behind the word, so that what is left over stands behind the word
  let level := levels (maxDepth - 1)
  have hbody : (createBody level (tableChange level)).run behind = .ok (statement, rest) := by
    rw [← run_statementBody_create level hblanks]
    exact hrun
  obtain ⟨front, rfl⟩ := (createBody _ _).suffix_of_run hbody
  exact ⟨blanks, word, front, rest, statement, rfl, hblanks, hrun⟩

end Sql

namespace Schema

/-- In an accepted schema every piece that begins with `CREATE` has a statement for its front, which
begins with the word.  The piece is complete exactly when nothing but white space and comments
is left over. -/
theorem create_read_from_front {text : String} {schema : Schema} (h : ofText text = .ok schema) :
    ∃ tokens, tokenize text.toList = .ok tokens ∧
      ∀ piece ∈ statementPieces tokens, leadsWithCreate piece = true →
        ∃ blanks word front rest statement,
          piece = blanks ++ .word word (some .CREATE) :: (front ++ rest) ∧
          (∀ t ∈ blanks, t.isBlank = true) ∧
          (levels maxDepth).statement.run piece = .ok (statement, rest) ∧
          (Sql.Complete piece ↔ significant rest = []) := by
  obtain ⟨tables, ⟨tokens, htokens, hpieces, -⟩, -⟩ := exists_creates_of_ofText h
  refine ⟨tokens, htokens, fun piece hmem hcreate => ?_⟩
  have hread : Sql.Readable piece := by
    by_contra hunread
    exact hpieces (.definition hmem hcreate hunread)
  obtain ⟨blanks, word, front, rest, statement, hpiece, hblanks, hrun⟩ :=
    Sql.exists_front_of_create hcreate hread
  exact ⟨blanks, word, front, rest, statement, hpiece, hblanks, hrun,
    Sql.complete_iff_of_run hrun⟩

/-! ## A missing semicolon -/

/-- Some piece that begins with `CREATE` goes on behind its statement. -/
def hasLeftover (chars : List Char) : Bool :=
  match tokenize chars with
  | .error _ => false
  | .ok tokens =>
    (statementPieces tokens).any fun piece => leadsWithCreate piece && Sql.leavesTokens piece

/-- The definitions of the four tables, and behind the last of them, without a semicolon, the
beginning of another. -/
def brokenText : List String := tablesText " CREATE TABLE [Notes] ("

theorem accepts_brokenText : accepts (brokenText.flatMap String.toList) = true := by
  decide +kernel

theorem brokenText_read_from_front :
    ∃ schema tokens, ofText (String.join brokenText) = .ok schema ∧
      tokenize (String.join brokenText).toList = .ok tokens ∧
      ∀ piece ∈ statementPieces tokens, leadsWithCreate piece = true →
        ∃ blanks word front rest statement,
          piece = blanks ++ .word word (some .CREATE) :: (front ++ rest) ∧
          (∀ t ∈ blanks, t.isBlank = true) ∧
          (levels maxDepth).statement.run piece = .ok (statement, rest) ∧
          (Sql.Complete piece ↔ significant rest = []) := by
  have hchars : (String.join brokenText).toList = _ := String.toList_join
  obtain ⟨schema, haccept⟩ := exists_ofText hchars accepts_brokenText
  obtain ⟨tokens, htokens, hpieces⟩ := create_read_from_front haccept
  exact ⟨schema, tokens, haccept, htokens, hpieces⟩

/-- A definition that is broken off is accepted where no semicolon stands before it. -/
theorem leftover_accepted :
    ∃ schema tokens piece, ofText (String.join brokenText) = .ok schema ∧
      tokenize (String.join brokenText).toList = .ok tokens ∧
      piece ∈ statementPieces tokens ∧ leadsWithCreate piece = true ∧ ¬ Sql.Complete piece := by
  have hchars : (String.join brokenText).toList = _ := String.toList_join
  obtain ⟨schema, haccept⟩ := exists_ofText hchars accepts_brokenText
  have hleftover : hasLeftover (brokenText.flatMap String.toList) = true := by decide +kernel
  obtain ⟨-, ⟨tokens, htokens, -, -⟩, -⟩ := exists_creates_of_ofText haccept
  rw [← hchars, hasLeftover, htokens] at hleftover
  obtain ⟨piece, hmem, hpiece⟩ := List.any_eq_true.mp hleftover
  obtain ⟨hcreate, hleaves⟩ := Bool.and_eq_true_iff.mp hpiece
  exact ⟨schema, tokens, piece, haccept, htokens, hmem, hcreate,
    Sql.not_complete_of_leavesTokens hleaves⟩

end Schema

end Conformance
