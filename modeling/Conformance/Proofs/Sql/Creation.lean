import Conformance.Proofs.Sql.Survey
import Conformance.Proofs.Text.Segments
import Mathlib.Data.List.Forall2
import Mathlib.Data.List.TakeWhile

set_option autoImplicit false

/-!
# What can create a table

Only a piece that begins with the word `CREATE` is read as the definition of a table; an explained
definition creates nothing.  White space and comments behind a piece do not change what is read
from its front.
-/

namespace Conformance.Sql

open Grammar (Level Statement explainBody levels maxDepth statementBody)

/-! ## Blanks behind a piece -/

variable {piece piece' : List Token}

theorem leading?_padded (h : Padded piece piece') : leading? piece' = leading? piece := by
  simp only [leading?, ← List.head?_filter, h.filter_isBlank]

theorem leadsWithCreate_padded (h : Padded piece piece') :
    leadsWithCreate piece' = leadsWithCreate piece := by
  rw [leadsWithCreate, leading?_padded h, leadsWithCreate]

theorem read?_padded (h : Padded piece piece') :
    Statement.read? piece' = Statement.read? piece := by
  unfold Statement.read?
  obtain ⟨_, _, _, hrun, hrun', -⟩ | ⟨_, hrun, hrun'⟩ :=
    ((levels maxDepth).statement.run_padded h).ok_or_error
  · rw [hrun, hrun']
    rfl
  · rw [hrun, hrun']

/-- A survey does not depend on the blanks behind the pieces. -/
theorem survey_padded {ps ps' : List (List Token)} (h : List.Forall₂ Padded ps ps') :
    survey ps' = survey ps := by
  induction h with
  | nil => rfl
  | cons hpiece _ ih =>
    rw [survey, read?_padded hpiece, leadsWithCreate_padded hpiece, ih, survey]

/-- A blank at the end of a text is one behind its last piece. -/
theorem forall₂_padded_statementPieces (ts : List Token) :
    List.Forall₂ Padded (statementPieces ts) (statementPieces (ts ++ [.blank])) := by
  obtain ⟨front, last, first, back, hpieces, hblank, hboth⟩ :=
    Text.exists_segments_append Token.semicolon ts [.blank]
  obtain ⟨rfl, rfl⟩ := List.cons.inj hblank
  have hpadded : List.Forall₂ Padded (pieces ts) (pieces (ts ++ [.blank])) := by
    rw [pieces, pieces, hpieces, hboth]
    refine List.rel_append (List.forall₂_same.mpr fun piece _ => .refl piece) ?_
    exact .cons ⟨1, rfl⟩ .nil
  refine List.rel_filter (fun piece piece' hpiece => ?_) hpadded
  dsimp only
  rw [leading?_padded hpiece]

/-! ## What a parser can yield -/

namespace Parser

variable {α β : Type}

/-- Whatever the parser reads is as the predicate says. -/
def Yields (p : Parser α) (P : α → Prop) : Prop :=
  ∀ ts a rest, p.run ts = .ok (a, rest) → P a

theorem run_bind (p : Parser α) (f : α → Parser β) (ts : List Token) :
    (p >>= f).run ts =
      match p.run ts with
      | .ok (a, rest) => (f a).run rest
      | .error failure => .error failure := rfl

namespace Yields

variable {P : β → Prop}

theorem bind (p : Parser α) {f : α → Parser β} (h : ∀ a, (f a).Yields P) :
    (p >>= f).Yields P := by
  intro ts b rest hrun
  rw [run_bind] at hrun
  split at hrun
  · exact h _ _ _ _ hrun
  · cases hrun

theorem pure {b : β} (h : P b) : (Pure.pure b : Parser β).Yields P := by
  intro ts b' rest hrun
  cases hrun
  exact h

theorem unexpected : (Parser.unexpected : Parser β).Yields P := by
  intro ts b rest hrun
  cases hrun

end Yields

/-- Looking ahead finds the first token that is no blank. -/
theorem run_peek?_eq (ts : List Token) : peek?.run ts = .ok (leading? ts, ts) := by
  rw [leading?, List.find?_not_eq_head?_dropWhile]
  simp only [peek?, lookAhead, next?]
  cases ts.dropWhile Token.isBlank <;> rfl

end Parser

/-! ## Statements that create nothing -/

open Conformance.Sql.Parser (Yields run_bind run_peek?_eq)

/-- An explained statement is read for its form only: every way out of it creates nothing. -/
theorem yields_explainBody (level : Level) :
    (explainBody level).Yields fun statement => created? statement = none := by
  unfold explainBody
  refine .bind _ fun phrased => ?_
  dsimp only
  split
  case' isFalse => refine .bind _ fun _ => .bind _ fun _ => .bind _ fun _ => ?_
  all_goals
    refine .bind _ fun statement? => ?_
    split
    · exact .unexpected
    · exact .pure rfl
    · exact .bind _ fun _ => .bind _ fun _ => .pure rfl

/-- A statement that creates a table begins with the word. -/
theorem leadsWithCreate_of_run {level : Level} {statement : Statement} {rest : List Token}
    (h : (statementBody level).run piece = .ok (statement, rest))
    (hcreated : created? statement ≠ none) : leadsWithCreate piece = true := by
  have hother : ∀ p : Parser Unit,
      (do p; return .other : Parser Statement).Yields fun statement => created? statement = none :=
    fun p => .bind _ fun _ => .pure rfl
  rw [statementBody, run_bind, run_peek?_eq] at h
  dsimp only at h
  generalize hleading : leading? piece = token? at h
  split at h
  · exact absurd (hother _ _ _ _ h) hcreated
  · split at h
    case h_5 => rw [leadsWithCreate, hleading]; rfl
    case h_1 | h_2 | h_3 | h_4 => exact absurd (hother _ _ _ _ h) hcreated
    case h_6 | h_7 | h_8 =>
      exact absurd (Yields.bind _ (fun _ => yields_explainBody level) _ _ _ h) hcreated
    case h_9 => exact absurd (Yields.bind _ (fun _ => hother _) _ _ _ h) hcreated
  · cases h

/-- A piece that does not begin with the word creates nothing, whether it can be read or not. -/
theorem pieceTable?_of_not_leadsWithCreate (h : leadsWithCreate piece = false) :
    pieceTable? piece = none := by
  by_contra hcreated
  have hreadable : Readable piece := by
    by_contra hunread
    exact hcreated (pieceTable?_of_not_readable hunread)
  obtain ⟨statement, hread⟩ := hreadable
  rw [pieceTable?_of_read hread] at hcreated
  obtain ⟨rest, hrun⟩ := read?_eq_ok_iff.mp hread
  -- the statement is read one level down
  have hbody : (statementBody (levels (maxDepth - 1))).run piece = .ok (statement, rest) := hrun
  have hleads := leadsWithCreate_of_run hbody hcreated
  rw [h] at hleads
  cases hleads

end Conformance.Sql
