import Conformance.Proofs.Sql.Lexing
import Conformance.Proofs.Text.Segments
import Conformance.Sql.Definition

set_option autoImplicit false

/-!
# The statements of a text

The statements of a text are its pieces between semicolons, without white space and comments and
without the pieces that hold nothing else.  They depend on the significant tokens alone.
-/

namespace Conformance.Sql

/-- The tokens that are neither white space nor comments. -/
def significant (tokens : List Token) : List Token := tokens.filter fun token => !token.isBlank

/-- The statements of a text, each by its significant tokens. -/
def statements (tokens : List Token) : List (List Token) :=
  (statementPieces tokens).map significant

@[simp] theorem significant_nil : significant [] = [] := rfl

@[simp] theorem significant_append (ts ts' : List Token) :
    significant (ts ++ ts') = significant ts ++ significant ts' := by
  simp only [significant, List.filter_append]

@[simp] theorem significant_blank_cons (ts : List Token) :
    significant (.blank :: ts) = significant ts := rfl

theorem significant_of_notMem {ts : List Token} (h : .blank ∉ ts) : significant ts = ts := by
  unfold significant
  rw [List.filter_eq_self]
  intro token htoken
  cases token with
  | blank => exact absurd htoken h
  | _ => rfl

theorem isSome_leading?_iff {piece : List Token} :
    (leading? piece).isSome = true ↔ significant piece ≠ [] := by
  rw [leading?, List.find?_isSome, significant, ne_eq, List.filter_eq_nil_iff]
  simp

theorem statements_eq_fragments (tokens : List Token) :
    statements tokens = Text.fragments .semicolon (significant tokens) := by
  have hselect : (fun piece : List Token => (leading? piece).isSome) =
      (fun piece => decide (piece ≠ [])) ∘ significant := by
    funext piece
    rw [Bool.eq_iff_iff, isSome_leading?_iff]
    simp
  rw [statements, statementPieces, pieces, Text.fragments, hselect, ← List.filter_map]
  congr 1
  have hkeep : (!Token.semicolon.isBlank) = true := rfl
  exact (Text.segments_filter (p := fun token => !token.isBlank) hkeep tokens).symm

end Conformance.Sql
