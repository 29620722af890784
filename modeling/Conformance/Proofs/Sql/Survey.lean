import Conformance.Sql.Definition
import Mathlib.Tactic.ByContra

set_option autoImplicit false

/-!
# What a text creates

The pieces of a text are read one by one.  A piece that begins with the word `CREATE` has to be
readable; any other piece need not be, as long as some piece creates a table.  These are the only
two ways in which pieces are malformed, and where they are not, the text creates the tables of its
pieces in order.
-/

namespace Conformance.Sql

open Grammar

/-! ## Pieces -/

/-- A statement can be read at the front of the piece. -/
def Readable (piece : List Token) : Prop := ∃ statement, Statement.read? piece = .ok statement

/-- The statement that is read of a piece, whatever is left behind it. -/
theorem read?_eq_ok_iff {piece : List Token} {statement : Statement} :
    Statement.read? piece = .ok statement ↔
      ∃ rest, (levels maxDepth).statement.run piece = .ok (statement, rest) := by
  unfold Statement.read?
  cases (levels maxDepth).statement.run piece with
  | error failure => simp [Except.map]
  | ok result =>
    obtain ⟨read, rest⟩ := result
    simp [Except.map]

/-- The table that the statement at the front of a piece creates, if it creates one. -/
def pieceTable? (piece : List Token) : Option TableDefinition :=
  match Statement.read? piece with
  | .ok statement => created? statement
  | .error _ => none

/-- The tables that pieces create, in order. -/
def pieceTables (ps : List (List Token)) : List TableDefinition := ps.filterMap pieceTable?

/-- What is wrong with the pieces of a text. -/
inductive MalformedPieces (ps : List (List Token)) : Prop where
  /-- A piece that begins with `CREATE` cannot be read. -/
  | definition {piece : List Token} (hmem : piece ∈ ps) (hcreate : leadsWithCreate piece = true)
      (hunread : ¬ Readable piece) : MalformedPieces ps
  /-- A piece cannot be read, and no piece creates a table. -/
  | noTable {piece : List Token} (hmem : piece ∈ ps) (hunread : ¬ Readable piece)
      (hnone : ∀ other ∈ ps, pieceTable? other = none) : MalformedPieces ps

theorem pieceTable?_of_read {piece : List Token} {statement : Statement}
    (h : Statement.read? piece = .ok statement) : pieceTable? piece = created? statement := by
  rw [pieceTable?, h]

theorem pieceTable?_of_not_readable {piece : List Token} (h : ¬ Readable piece) :
    pieceTable? piece = none := by
  unfold pieceTable?
  split
  · next statement hread => exact absurd ⟨statement, hread⟩ h
  · rfl

theorem pieceTables_eq_nil_iff {ps : List (List Token)} :
    pieceTables ps = [] ↔ ∀ piece ∈ ps, pieceTable? piece = none := by
  rw [pieceTables, List.filterMap_eq_nil_iff]

/-- A piece that begins with `CREATE`: white space and comments, the word, and the rest. -/
theorem leadsWithCreate_iff {piece : List Token} :
    leadsWithCreate piece = true ↔
      ∃ blanks word rest, piece = blanks ++ .word word (some .CREATE) :: rest ∧
        ∀ token ∈ blanks, token.isBlank = true := by
  rw [leadsWithCreate, beq_iff_eq, Option.bind_eq_some_iff]
  constructor
  · rintro ⟨token, hleading, hkeyword⟩
    obtain ⟨-, blanks, rest, rfl, hblanks⟩ := List.find?_eq_some_iff_append.mp hleading
    cases token with
    | word word keyword =>
      cases hkeyword
      exact ⟨blanks, word, rest, rfl, by simpa using hblanks⟩
    | _ => cases hkeyword
  · rintro ⟨blanks, word, rest, rfl, hblanks⟩
    refine ⟨.word word (some .CREATE), ?_, rfl⟩
    exact List.find?_eq_some_iff_append.mpr ⟨rfl, blanks, rest, rfl, by simpa using hblanks⟩

/-! ## The survey -/

/-- Where every `CREATE` statement can be read, the survey finds the tables, and a failure exactly
if some piece cannot be read. -/
theorem survey_eq_ok {ps : List (List Token)}
    (h : ∀ piece ∈ ps, leadsWithCreate piece = true → Readable piece) :
    ∃ failure?, survey ps = .ok ⟨pieceTables ps, failure?⟩ ∧
      (failure? = none ↔ ∀ piece ∈ ps, Readable piece) := by
  induction ps with
  | nil => exact ⟨none, rfl, by simp⟩
  | cons piece ps ih =>
    obtain ⟨failure?, hlater, hfailure⟩ :=
      ih fun other hother => h other (List.mem_cons_of_mem _ hother)
    cases hread : Statement.read? piece with
    | ok statement =>
      have hreadable : Readable piece := ⟨statement, hread⟩
      refine ⟨failure?, ?_, by simp [hfailure, hreadable]⟩
      have htables : pieceTables (piece :: ps) = (created? statement).toList ++ pieceTables ps := by
        rw [pieceTables, List.filterMap_cons, pieceTable?_of_read hread]
        cases created? statement <;> rfl
      simp only [survey, hread, hlater, htables, bind, Except.bind, pure, Except.pure]
    | error failure =>
      have hunread : ¬ Readable piece := by
        rintro ⟨statement, hstatement⟩
        rw [hread] at hstatement
        cases hstatement
      have hother : leadsWithCreate piece = false := by
        by_contra hcreate
        exact hunread (h piece (by simp) (by simpa using hcreate))
      refine ⟨some failure, ?_, by simp [hunread]⟩
      have htables : pieceTables (piece :: ps) = pieceTables ps := by
        rw [pieceTables, List.filterMap_cons, pieceTable?_of_not_readable hunread, pieceTables]
      simp [survey, hread, hlater, htables, hother, bind, Except.bind, pure, Except.pure]

/-- The survey stops at a `CREATE` statement that cannot be read. -/
theorem exists_survey_eq_error {ps : List (List Token)} {piece : List Token} (hmem : piece ∈ ps)
    (hcreate : leadsWithCreate piece = true) (hunread : ¬ Readable piece) :
    ∃ failure, survey ps = .error failure := by
  induction ps with
  | nil => cases hmem
  | cons first ps ih =>
    cases hread : Statement.read? first with
    | ok statement =>
      have hrest : piece ∈ ps := by
        rcases List.mem_cons.mp hmem with rfl | hrest
        · exact absurd ⟨statement, hread⟩ hunread
        · exact hrest
      obtain ⟨failure, hfailure⟩ := ih hrest
      exact ⟨failure, by simp [survey, hread, hfailure, bind, Except.bind]⟩
    | error failure =>
      by_cases hfirst : leadsWithCreate first = true
      · exact ⟨failure, by simp [survey, hread, hfirst]⟩
      · have hrest : piece ∈ ps := by
          rcases List.mem_cons.mp hmem with rfl | hrest
          · exact absurd hcreate hfirst
          · exact hrest
        obtain ⟨failure, hfailure⟩ := ih hrest
        exact ⟨failure, by simp [survey, hread, hfirst, hfailure, bind, Except.bind]⟩

/-! ## The tables -/

theorem tablesOfPieces_eq_ok {ps : List (List Token)} (h : ¬ MalformedPieces ps) :
    tablesOfPieces ps = .ok (pieceTables ps) := by
  have hcreate : ∀ piece ∈ ps, leadsWithCreate piece = true → Readable piece := by
    intro piece hmem hcreate
    by_contra hunread
    exact h (.definition hmem hcreate hunread)
  obtain ⟨failure?, hsurvey, hfailure⟩ := survey_eq_ok hcreate
  simp only [tablesOfPieces, hsurvey, bind, Except.bind]
  split
  · next hnone =>
    -- without a table every piece can be read, so there is no failure to report
    have hread : ∀ piece ∈ ps, Readable piece := by
      intro piece hmem
      by_contra hunread
      exact h (.noTable hmem hunread (pieceTables_eq_nil_iff.mp hnone))
    cases hfailure.mpr hread
  · rfl

theorem exists_tablesOfPieces_eq_error {ps : List (List Token)} (h : MalformedPieces ps) :
    ∃ failure, tablesOfPieces ps = .error failure := by
  by_cases hcreate : ∀ piece ∈ ps, leadsWithCreate piece = true → Readable piece
  · obtain ⟨failure?, hsurvey, hfailure⟩ := survey_eq_ok hcreate
    cases h with
    | definition hmem hlead hunread => exact absurd (hcreate _ hmem hlead) hunread
    | noTable hmem hunread hnone =>
      have htables := pieceTables_eq_nil_iff.mpr hnone
      cases failure? with
      | none => exact absurd (hfailure.mp rfl _ hmem) hunread
      | some failure =>
        exact ⟨failure, by simp [tablesOfPieces, hsurvey, htables, bind, Except.bind]⟩
  · push Not at hcreate
    obtain ⟨piece, hmem, hlead, hunread⟩ := hcreate
    obtain ⟨failure, hsurvey⟩ := exists_survey_eq_error hmem hlead hunread
    exact ⟨failure, by simp [tablesOfPieces, hsurvey, bind, Except.bind]⟩

/-! ## Texts -/

/-- What is wrong with a text: it cannot be cut into tokens, or its pieces are malformed. -/
inductive Malformed (text : String) : Prop where
  | token {error : LexError} (h : tokenize text.toList = .error error) : Malformed text
  | pieces {tokens : List Token} (h : tokenize text.toList = .ok tokens)
      (hpieces : MalformedPieces (statementPieces tokens)) : Malformed text

/-- A text that is not malformed creates these tables, in the order of its statements. -/
def Creates (text : String) (tables : List TableDefinition) : Prop :=
  ∃ tokens, tokenize text.toList = .ok tokens ∧ ¬ MalformedPieces (statementPieces tokens) ∧
    tables = pieceTables (statementPieces tokens)

theorem createdTables_eq_ok_iff {text : String} {tables : List TableDefinition} :
    createdTables text = .ok tables ↔ Creates text tables := by
  unfold createdTables Creates
  cases htokens : tokenize text.toList with
  | error error => simp
  | ok tokens =>
    by_cases hpieces : MalformedPieces (statementPieces tokens)
    · obtain ⟨failure, hfailure⟩ := exists_tablesOfPieces_eq_error hpieces
      simp [hfailure, hpieces, Except.mapError]
    · simp [tablesOfPieces_eq_ok hpieces, hpieces, Except.mapError, eq_comm]

theorem exists_createdTables_eq_error_iff {text : String} :
    (∃ cause, createdTables text = .error cause) ↔ Malformed text := by
  unfold createdTables
  cases htokens : tokenize text.toList with
  | error error => simp [Malformed.token htokens]
  | ok tokens =>
    by_cases hpieces : MalformedPieces (statementPieces tokens)
    · obtain ⟨failure, hfailure⟩ := exists_tablesOfPieces_eq_error hpieces
      simp [hfailure, Except.mapError, Malformed.pieces htokens hpieces]
    · have hwell : ¬ Malformed text := by
        rintro (h | ⟨h, hmalformed⟩)
        · rw [htokens] at h
          cases h
        · rw [htokens] at h
          cases h
          exact hpieces hmalformed
      simp [tablesOfPieces_eq_ok hpieces, Except.mapError, hwell]

end Conformance.Sql
