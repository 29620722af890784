import Conformance.Proofs.Schema.Verdict
import Conformance.Proofs.Script.Preamble
import Conformance.Proofs.Sql.Closing
import Conformance.Proofs.Sql.Creation

set_option autoImplicit false

/-!
# Statements that create nothing

Texts that end with a semicolon create one after the other what each of them creates.  Pieces that
do not begin with `CREATE` create nothing, and where a table is created it does not matter whether
they can be read.  So a schema may have such pieces before it, up to a semicolon, and behind it,
from a semicolon on: it stays a schema, and says the same about the container of a test case.  This
is what lets the frame of a dump through.
-/

namespace Conformance

namespace Sql

variable {ps qs : List (List Token)} {tables tables' : List TableDefinition}

/-! ## Pieces -/

/-- Pieces are well formed when every definition can be read, and every other piece as well unless
a table is created. -/
theorem not_malformedPieces_iff :
    ¬ MalformedPieces ps ↔
      (∀ piece ∈ ps, leadsWithCreate piece = true → Readable piece) ∧
        ((∀ piece ∈ ps, Readable piece) ∨ pieceTables ps ≠ []) := by
  constructor
  · intro hwell
    refine ⟨fun piece hmem hcreate => ?_, ?_⟩
    · by_contra hunread
      exact hwell (.definition hmem hcreate hunread)
    · by_contra! hboth
      obtain ⟨⟨piece, hmem, hunread⟩, hnone⟩ := hboth
      exact hwell (.noTable hmem hunread (pieceTables_eq_nil_iff.mp hnone))
  · rintro ⟨hdefinitions, hothers⟩ (⟨hmem, hcreate, hunread⟩ | ⟨hmem, hunread, hnone⟩)
    · exact hunread (hdefinitions _ hmem hcreate)
    · rcases hothers with hread | htable
      · exact hunread (hread _ hmem)
      · exact htable (pieceTables_eq_nil_iff.mpr hnone)

theorem tablesOfPieces_eq_ok_iff :
    tablesOfPieces ps = .ok tables ↔ ¬ MalformedPieces ps ∧ pieceTables ps = tables := by
  by_cases hps : MalformedPieces ps
  · obtain ⟨failure, hfailure⟩ := exists_tablesOfPieces_eq_error hps
    simp [hfailure, hps]
  · simp [tablesOfPieces_eq_ok hps, hps]

theorem pieceTables_append : pieceTables (ps ++ qs) = pieceTables ps ++ pieceTables qs :=
  List.filterMap_append

theorem tablesOfPieces_append (hps : tablesOfPieces ps = .ok tables)
    (hqs : tablesOfPieces qs = .ok tables') :
    tablesOfPieces (ps ++ qs) = .ok (tables ++ tables') := by
  rw [tablesOfPieces_eq_ok_iff, not_malformedPieces_iff] at hps hqs ⊢
  obtain ⟨⟨hdefinitions, hothers⟩, rfl⟩ := hps
  obtain ⟨⟨hdefinitions', hothers'⟩, rfl⟩ := hqs
  refine ⟨⟨List.forall_mem_append.mpr ⟨hdefinitions, hdefinitions'⟩, ?_⟩, pieceTables_append⟩
  rw [pieceTables_append, ne_eq, List.append_eq_nil_iff, not_and_or]
  rcases hothers with hread | htable
  · rcases hothers' with hread' | htable
    · exact .inl (List.forall_mem_append.mpr ⟨hread, hread'⟩)
    · exact .inr (.inr htable)
  · exact .inr (.inl htable)

theorem tablesOfPieces_padded (h : List.Forall₂ Padded ps qs) :
    tablesOfPieces qs = tablesOfPieces ps := by
  rw [tablesOfPieces, survey_padded h, tablesOfPieces]

/-- None of the pieces begins with `CREATE`. -/
def IdlePieces (ps : List (List Token)) : Prop := ∀ piece ∈ ps, leadsWithCreate piece = false

theorem IdlePieces.pieceTables_eq_nil (h : IdlePieces ps) : pieceTables ps = [] :=
  pieceTables_eq_nil_iff.mpr fun piece hmem => pieceTable?_of_not_leadsWithCreate (h piece hmem)

/-- Idle pieces among others make no difference, if those create a table. -/
theorem IdlePieces.tablesOfPieces_eq_ok {idle : List (List Token)} (hidle : IdlePieces idle)
    (hqs : tablesOfPieces qs = .ok tables) (htables : tables ≠ [])
    (hmem : ∀ piece ∈ ps, piece ∈ idle ∨ piece ∈ qs) (hsame : pieceTables ps = pieceTables qs) :
    tablesOfPieces ps = .ok tables := by
  rw [tablesOfPieces_eq_ok_iff, not_malformedPieces_iff] at hqs ⊢
  obtain ⟨⟨hdefinitions, -⟩, rfl⟩ := hqs
  refine ⟨⟨fun piece hpiece hcreate => ?_, .inr (hsame ▸ htables)⟩, hsame⟩
  rcases hmem piece hpiece with hpiece | hpiece
  · rw [hidle piece hpiece] at hcreate
    cases hcreate
  · exact hdefinitions piece hpiece hcreate

theorem IdlePieces.tablesOfPieces_append {idle : List (List Token)} (hidle : IdlePieces idle)
    (hps : tablesOfPieces ps = .ok tables) (htables : tables ≠ []) :
    tablesOfPieces (idle ++ ps) = .ok tables ∧ tablesOfPieces (ps ++ idle) = .ok tables := by
  constructor
  · refine hidle.tablesOfPieces_eq_ok hps htables (fun piece => List.mem_append.mp) ?_
    rw [pieceTables_append, hidle.pieceTables_eq_nil, List.nil_append]
  · refine hidle.tablesOfPieces_eq_ok hps htables
      (fun piece hmem => (List.mem_append.mp hmem).symm) ?_
    rw [pieceTables_append, hidle.pieceTables_eq_nil, List.append_nil]

/-! ## Texts -/

/-- No piece of the text begins with `CREATE`. -/
def Idle (text : String) : Prop :=
  ∃ tokens, tokenize text.toList = .ok tokens ∧ IdlePieces (pieces tokens)

/-- The last token of the text is a semicolon. -/
def Closed (text : String) : Prop :=
  ∃ tokens, tokenize text.toList = .ok (tokens ++ [.semicolon])

instance (text : String) : Decidable (Idle text) :=
  match h : tokenize text.toList with
  | .error _ => isFalse fun ⟨_, htokens, _⟩ => by rw [h] at htokens; cases htokens
  | .ok tokens => decidable_of_iff (∀ piece ∈ pieces tokens, leadsWithCreate piece = false)
      ⟨fun hidle => ⟨tokens, h, hidle⟩, fun ⟨_, htokens, hidle⟩ => by
        rw [h] at htokens; cases htokens; exact hidle⟩

instance (text : String) : Decidable (Closed text) :=
  match h : tokenize text.toList with
  | .error _ => isFalse fun ⟨_, htokens⟩ => by rw [h] at htokens; cases htokens
  | .ok tokens => decidable_of_iff (tokens.getLast? = some .semicolon)
      ⟨fun hlast => by
        obtain ⟨front, rfl⟩ := List.getLast?_eq_some_iff.mp hlast
        exact ⟨front, h⟩,
        fun ⟨_, htokens⟩ => by rw [h] at htokens; cases htokens; simp⟩

theorem creates_iff_tablesOfPieces {text : String} {tokens : List Token}
    (h : tokenize text.toList = .ok tokens) :
    Creates text tables ↔ tablesOfPieces (statementPieces tokens) = .ok tables := by
  rw [tablesOfPieces_eq_ok_iff]
  constructor
  · rintro ⟨tokens', htokens, hwell, rfl⟩
    rw [h] at htokens
    cases htokens
    exact ⟨hwell, rfl⟩
  · rintro ⟨hwell, rfl⟩
    exact ⟨tokens, h, hwell, rfl⟩

theorem statementPieces_append_semicolon (ts ts' : List Token) :
    statementPieces (ts ++ .semicolon :: ts') = statementPieces ts ++ statementPieces ts' := by
  rw [statementPieces, pieces, Text.segments_append_cons, List.filter_append]
  rfl

theorem statementPieces_concat_semicolon (ts : List Token) :
    statementPieces (ts ++ [.semicolon]) = statementPieces ts := by
  have hnothing : statementPieces [] = [] := rfl
  rw [statementPieces_append_semicolon, hnothing, List.append_nil]

theorem IdlePieces.statementPieces {ts : List Token} (h : IdlePieces (pieces ts)) :
    IdlePieces (statementPieces ts) :=
  fun piece hmem => h piece (List.mem_of_mem_filter hmem)

/-- A blank before a text is one before its first piece. -/
theorem IdlePieces.blank_cons {ts : List Token} (h : IdlePieces (pieces ts)) :
    IdlePieces (pieces (.blank :: ts)) := by
  obtain ⟨piece, rest, hpieces⟩ :=
    List.exists_cons_of_ne_nil (Text.segments_ne_nil Token.semicolon ts)
  have hblank : pieces (.blank :: ts) = (.blank :: piece) :: rest := by
    simp [pieces, Text.segments, hpieces]
  rw [pieces, hpieces] at h
  rw [hblank]
  rintro other (_ | ⟨_, hmem⟩)
  · exact h piece (by simp)
  · exact h other (List.mem_cons_of_mem _ hmem)

/-- A text that ends with a semicolon creates its tables before those of the text behind it. -/
theorem Creates.append {first second : String} (hclosed : Closed first)
    (hfirst : Creates first tables) (hsecond : Creates second tables') :
    Creates (first ++ second) (tables ++ tables') := by
  obtain ⟨ts, hts⟩ := hclosed
  obtain ⟨ts', hts', -⟩ := id hsecond
  have htokens := tokenize_append_of_semicolon hts hts'
  rw [creates_iff_tablesOfPieces hts, statementPieces_concat_semicolon] at hfirst
  rw [creates_iff_tablesOfPieces hts'] at hsecond
  rw [← String.toList_append] at htokens
  rw [creates_iff_tablesOfPieces htokens, statementPieces_append_semicolon]
  exact tablesOfPieces_append hfirst hsecond

/-- An idle text that ends with a semicolon may stand before a text that creates tables. -/
theorem Creates.idle_append {header text : String} (hidle : Idle header) (hclosed : Closed header)
    (h : Creates text tables) (htables : tables ≠ []) : Creates (header ++ text) tables := by
  obtain ⟨ts, hts⟩ := hclosed
  obtain ⟨ts', hts', -⟩ := id h
  have htokens := tokenize_append_of_semicolon hts hts'
  obtain ⟨tokens, hheader, hpieces⟩ := hidle
  rw [hts] at hheader
  cases hheader
  have hstatements := hpieces.statementPieces
  rw [statementPieces_concat_semicolon] at hstatements
  rw [creates_iff_tablesOfPieces hts'] at h
  rw [← String.toList_append] at htokens
  rw [creates_iff_tablesOfPieces htokens, statementPieces_append_semicolon]
  exact (hstatements.tablesOfPieces_append h htables).1

/-- An idle text may stand behind a text that creates tables, from a semicolon on. -/
theorem Creates.append_idle {text footer : String} (hidle : Idle footer) (h : Creates text tables)
    (htables : tables ≠ []) : Creates (text ++ "\n;\n" ++ footer) tables := by
  obtain ⟨ts', hts', hpieces⟩ := hidle
  obtain ⟨ts, hts, -⟩ := id h
  have hidle := hpieces.blank_cons.statementPieces
  have htoList : (text ++ "\n;\n" ++ footer).toList =
      text.toList ++ '\n' :: ';' :: '\n' :: footer.toList := by
    simp
  rw [creates_iff_tablesOfPieces hts] at h
  rcases tokenize_semicolonLine hts hts' with htokens | htokens
  · -- the line end is a blank behind the last piece of the text
    have hblank : ts ++ .blank :: .semicolon :: .blank :: ts' =
        (ts ++ [.blank]) ++ .semicolon :: .blank :: ts' := by
      simp
    rw [← htoList, hblank] at htokens
    rw [creates_iff_tablesOfPieces htokens, statementPieces_append_semicolon]
    rw [← tablesOfPieces_padded (forall₂_padded_statementPieces ts)] at h
    exact (hidle.tablesOfPieces_append h htables).2
  · rw [← htoList] at htokens
    rw [creates_iff_tablesOfPieces htokens, statementPieces_append_semicolon]
    exact (hidle.tablesOfPieces_append h htables).2

end Sql

namespace Schema

open Sql (Closed Creates Idle createdTables createdTables_eq_ok_iff)

/-- A text that creates the same tables as a schema is a schema. -/
theorem ofText_of_same_tables {text other : String} {schema : Schema}
    (h : ofText text = .ok schema)
    (hsame : ∀ tables, tables ≠ [] → Creates text tables → Creates other tables) :
    ofText other = .ok { schema with text := other } := by
  obtain ⟨tables, hcreates, hprovides, -, hcontainer⟩ := exists_creates_of_ofText h
  have htables : tables ≠ [] := by
    rintro rfl
    obtain ⟨table, hfirst, -⟩ := hprovides Table.steps (by simp [Table.populated])
    exact List.not_mem_nil hfirst.mem
  rw [ofText_of_creates (hsame tables htables hcreates), check_eq_ok_iff]
  exact ⟨hprovides, rfl, hcontainer⟩

/-- Statements that create nothing make no difference to a schema, whether they stand before it, up
to a semicolon, or behind it, from a semicolon on.  In general the tables of a text that ends with
a semicolon come before those of the text behind it. -/
theorem ofText_idle :
    (∀ text schema, ofText text = .ok schema →
      (∀ header, Idle header → Closed header →
        ofText (header ++ text) = .ok { schema with text := header ++ text }) ∧
      ∀ footer, Idle footer →
        ofText (text ++ "\n;\n" ++ footer) =
          .ok { schema with text := text ++ "\n;\n" ++ footer }) ∧
    ∀ first second tables tables', Closed first → createdTables first = .ok tables →
      createdTables second = .ok tables' →
        createdTables (first ++ second) = .ok (tables ++ tables') := by
  refine ⟨fun text schema h => ⟨fun header hidle hclosed => ?_, fun footer hidle => ?_⟩, ?_⟩
  · exact ofText_of_same_tables h fun tables htables hcreates =>
      hcreates.idle_append hidle hclosed htables
  · exact ofText_of_same_tables h fun tables htables hcreates =>
      hcreates.append_idle hidle htables
  · intro first second tables tables' hclosed hfirst hsecond
    rw [createdTables_eq_ok_iff] at hfirst hsecond ⊢
    exact hfirst.append hclosed hsecond

/-- What a dump has before its definitions. -/
def dumpHeader : String := "PRAGMA foreign_keys=OFF;\nBEGIN TRANSACTION;"

/-- What stands behind them: a commit, and a piece that is no statement. -/
def dumpFooter : String := "COMMIT; -- the end\n'CREATE' hello; CREATED"

/-- A table of notes. -/
def notesText : String := "CREATE TABLE [Notes] ([Body] DEFAULT ';');"

/-- Four definitions keep what they provide inside the frame of a dump. -/
theorem dump_idle :
    ∃ schema text, text = String.join (tablesText "") ∧ ofText text = .ok schema ∧
      Idle dumpHeader ∧ Closed dumpHeader ∧ Idle dumpFooter ∧
      ofText (dumpHeader ++ text) = .ok { schema with text := dumpHeader ++ text } ∧
      ofText (text ++ "\n;\n" ++ dumpFooter) =
        .ok { schema with text := text ++ "\n;\n" ++ dumpFooter } ∧
      Closed notesText ∧ createdTables notesText = .ok [⟨"Notes", ["Body"]⟩] ∧
      createdTables (notesText ++ notesText) =
        .ok [⟨"Notes", ["Body"]⟩, ⟨"Notes", ["Body"]⟩] := by
  have hchars : (String.join (tablesText "")).toList = _ := String.toList_join
  obtain ⟨schema, haccept⟩ := exists_ofText hchars accepts_tablesText
  obtain ⟨hidle, hclosed, hfooter, hnotes, htables⟩ :
      Idle dumpHeader ∧ Closed dumpHeader ∧ Idle dumpFooter ∧ Closed notesText ∧
        createdTables notesText = .ok [⟨"Notes", ["Body"]⟩] := by
    decide +kernel
  obtain ⟨hframe, hjoin⟩ := ofText_idle
  obtain ⟨hbefore, hbehind⟩ := hframe _ schema haccept
  exact ⟨schema, _, rfl, haccept, hidle, hclosed, hfooter, hbefore _ hidle hclosed,
    hbehind _ hfooter, hnotes, htables, hjoin _ _ _ _ hnotes htables htables⟩

end Schema

end Conformance
