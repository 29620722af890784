import Conformance.Proofs.Sql.Spelling
import Conformance.Proofs.Traversal
import Conformance.Script

set_option autoImplicit false

/-!
# The lines of a script

Each row of a dataset is written on a line of its own: an `INSERT` statement with its semicolon.
A line spells the name of the table, the names of the columns and the values, whatever they are,
and the next line begins as if nothing stood before it.  So the lines of a script together spell
one statement for each row, in order.
-/

namespace Conformance

open Sql (Token Value Spells quoteIdentifier significant)
open Sql.Lexer (Lexed)

namespace Insert

/-- There are columns, and a value for each of them. -/
structure Complete (insert : Insert) : Prop where
  nonempty : insert.table.columns ≠ []
  length : insert.table.columns.length = insert.values.length

/-- The token of a name between double quotes. -/
def nameToken (name : String) : Token := .word ⟨name, some '\x22'⟩ none

/-- The tokens of the statement, without the semicolon. -/
def tokens (insert : Insert) : List Token :=
  .word ⟨"INSERT", none⟩ (some .INSERT) :: .word ⟨"INTO", none⟩ (some .INTO) ::
    nameToken insert.table.name :: .leftParen ::
      ([.comma].intercalate (insert.table.columns.map fun column => [nameToken column]) ++
        .rightParen :: .word ⟨"VALUES", none⟩ (some .VALUES) :: .leftParen ::
          ([.comma].intercalate (insert.values.map Value.tokens) ++ [.rightParen]))

/-- The values are written one after the other. -/
theorem literals_eq_ok {insert : Insert} (hcomplete : insert.Complete) {literals : List String}
    (h : insert.literals = .ok literals) :
    List.Forall₂ (fun value literal => value.literal = .ok literal) insert.values literals := by
  unfold Insert.literals at h
  rw [Traversal.mapM_eq_ok_iff] at h
  have hlength := hcomplete.length
  generalize insert.table.columns = columns at h hlength
  generalize insert.values = values at h hlength
  induction columns generalizing values literals with
  | nil =>
    obtain rfl := List.length_eq_zero_iff.mp hlength.symm
    simpa using h
  | cons column columns ih =>
    cases values with
    | nil => simp at hlength
    | cons value values =>
      rw [List.zip_cons_cons, List.forall₂_cons_left_iff] at h
      obtain ⟨literal, rest, hliteral, hrest, rfl⟩ := h
      refine .cons ?_ (ih values hrest (by simpa using hlength))
      cases hvalue : value.literal with
      | error e => simp [hvalue, Except.mapError] at hliteral
      | ok written => simpa [hvalue, Except.mapError] using hliteral

/-- A line holds the statement with its values filled in. -/
theorem line_eq_ok {insert : Insert} (hcomplete : insert.Complete) {line : String}
    (h : insert.line = .ok line) :
    ∃ literals, line = insert.statement literals ∧
      List.Forall₂ (fun value literal => value.literal = .ok literal) insert.values literals := by
  unfold Insert.line at h
  cases hliterals : insert.literals with
  | error e => simp [hliterals, bind, Except.bind] at h
  | ok literals =>
    simp only [hliterals, bind, Except.bind, pure, Except.pure] at h
    cases h
    exact ⟨literals, rfl, literals_eq_ok hcomplete hliterals⟩

/-- What stands between the parentheses of the values spells the values. -/
theorem spells_values {values : List Value} {literals : List String}
    (h : List.Forall₂ (fun value literal => value.literal = .ok literal) values literals) :
    Spells (", ".intercalate literals).toList ([.comma].intercalate (values.map Value.tokens)) := by
  rw [String.toList_intercalate]
  refine Spells.intercalate ?_
  rw [List.forall₂_map_left_iff, List.forall₂_map_right_iff]
  exact (h.imp fun _ _ hliteral => Sql.spells_literal hliteral).flip

/-- What stands between the parentheses of the columns spells their names. -/
theorem spells_columns (columns : List String) :
    Spells (", ".intercalate (columns.map quoteIdentifier)).toList
      ([.comma].intercalate (columns.map fun column => [nameToken column])) := by
  rw [String.toList_intercalate, List.map_map]
  refine Spells.intercalate ?_
  rw [List.forall₂_map_left_iff, List.forall₂_map_right_iff, List.forall₂_same]
  exact fun column _ => Sql.spells_quoteIdentifier column

/-- The characters of the statement, up to the line end. -/
def characters (insert : Insert) (literals : List String) : List Char :=
  "INSERT".toList ++ ' ' :: ("INTO".toList ++ ' ' ::
    ((quoteIdentifier insert.table.name).toList ++ ' ' :: '(' ::
      ((", ".intercalate (insert.table.columns.map quoteIdentifier)).toList ++ ')' :: ' ' ::
        ("VALUES".toList ++ ' ' :: '(' :: ((", ".intercalate literals).toList ++ [')', ';'])))))

theorem toList_statement (insert : Insert) (literals : List String) :
    (insert.statement literals).toList = insert.characters literals ++ ['\n'] := by
  change ("INSERT INTO " ++ quoteIdentifier insert.table.name ++ " (" ++ _ ++ ") VALUES (" ++ _ ++
    ");\n").toList = _
  simp only [characters, String.toList_append, List.append_assoc, List.cons_append]
  rfl

/-- A statement spells its tokens and a semicolon. -/
theorem spells_characters {insert : Insert} {literals : List String}
    (h : List.Forall₂ (fun value literal => value.literal = .ok literal) insert.values literals) :
    Spells (insert.characters literals) (insert.tokens ++ [.semicolon]) := by
  have hinsert : ("INSERT", .INSERT) ∈ Sql.insertWords := by simp [Sql.insertWords]
  have hinto : ("INTO", .INTO) ∈ Sql.insertWords := by simp [Sql.insertWords]
  have hvalues : ("VALUES", .VALUES) ∈ Sql.insertWords := by simp [Sql.insertWords]
  -- from the end of the statement to its beginning
  have hend := Spells.nil.semicolon.rightParen
  have hliterals := ((spells_values h).append rfl hend).leftParen.space
  have hcolumns := ((Sql.spells_word hvalues).append rfl hliterals).space.rightParen
  have hnames := ((spells_columns insert.table.columns).append rfl hcolumns).leftParen.space
  have hname := ((Sql.spells_quoteIdentifier insert.table.name).append rfl hnames).space
  have hstatement := (Sql.spells_word hinsert).append rfl
    ((Sql.spells_word hinto).append rfl hname).space
  simpa [characters, tokens, nameToken] using hstatement

/-! ## Marks -/

/-- A value is spelled without any mark that separates values or statements. -/
theorem notMem_tokens {mark : Token} (h : mark ∈ [Token.comma, .rightParen, .semicolon])
    (value : Value) : mark ∉ value.tokens := by
  simp only [List.mem_cons, List.not_mem_nil, or_false] at h
  rcases h with rfl | rfl | rfl
  all_goals
    cases value with
    | null => simp [Value.tokens]
    | text s => simp [Value.tokens]
    | integer n => cases n <;> simp [Value.tokens, Sql.integerTokens]

theorem notMem_values (mark : Token) (h : mark ∈ [Token.rightParen, .semicolon])
    (values : List Value) : mark ∉ [Token.comma].intercalate (values.map Value.tokens) := by
  refine Text.notMem_intercalate ?_ ?_
  · rintro rfl
    simp at h
  · intro piece hpiece
    obtain ⟨value, -, rfl⟩ := List.mem_map.mp hpiece
    exact notMem_tokens (List.mem_cons_of_mem _ h) value

theorem notMem_columns (mark : Token) (h : mark ∈ [Token.rightParen, .semicolon])
    (columns : List String) :
    mark ∉ [Token.comma].intercalate (columns.map fun column => [nameToken column]) := by
  refine Text.notMem_intercalate ?_ ?_
  · rintro rfl
    simp at h
  · intro piece hpiece
    obtain ⟨column, -, rfl⟩ := List.mem_map.mp hpiece
    rintro hmark
    rw [List.mem_singleton.mp hmark] at h
    simp [nameToken] at h

theorem semicolon_notMem_tokens (insert : Insert) : .semicolon ∉ insert.tokens := by
  have hcolumns := notMem_columns .semicolon (by simp) insert.table.columns
  have hvalues := notMem_values .semicolon (by simp) insert.values
  simp [tokens, nameToken] at hcolumns ⊢
  exact ⟨hcolumns, hvalues⟩

/-! ## Lines -/

/-- A line of a row. -/
theorem lexed_line {insert : Insert} (hcomplete : insert.Complete) {line : String}
    (h : insert.line = .ok line) (w : Bool) (v : List Char) :
    ∃ ts, Lexed w (line.toList ++ v) ts false v ∧
      significant ts = insert.tokens ++ [.semicolon] := by
  obtain ⟨literals, rfl, hliterals⟩ := line_eq_ok hcomplete h
  obtain ⟨ts, w', hlexed, hts⟩ := spells_characters hliterals w '\n' v rfl
  have hend : Lexed w' ('\n' :: v) [.blank] false v := .single rfl
  refine ⟨ts ++ [.blank], ?_, by simpa using hts⟩
  rw [toList_statement, List.append_assoc]
  exact hlexed.append hend

/-- The lines of rows, one after the other. -/
theorem lexed_lines {inserts : List Insert} (hcomplete : ∀ insert ∈ inserts, insert.Complete)
    {lines : List String} (h : inserts.mapM line = .ok lines) :
    ∃ ts, Sql.tokenize (String.join lines).toList = .ok ts ∧
      significant ts = inserts.flatMap fun insert => insert.tokens ++ [.semicolon] := by
  suffices hlexed : ∃ ts, Lexed false (String.join lines).toList ts false [] ∧
      significant ts = inserts.flatMap fun insert => insert.tokens ++ [.semicolon] by
    obtain ⟨ts, hlexed, hts⟩ := hlexed
    exact ⟨ts, Sql.tokenize_eq_ok_iff.mpr ⟨false, hlexed⟩, hts⟩
  rw [Traversal.mapM_eq_ok_iff] at h
  induction h with
  | nil => exact ⟨[], .done, rfl⟩
  | @cons insert line inserts lines hline _ ih =>
    obtain ⟨ts', hrest, hts'⟩ := ih fun other hother => hcomplete other (List.mem_cons_of_mem _ hother)
    obtain ⟨ts, hfirst, hts⟩ :=
      lexed_line (hcomplete insert (by simp)) hline false (String.join lines).toList
    refine ⟨ts ++ ts', ?_, by rw [Sql.significant_append, hts, hts', List.flatMap_cons]⟩
    rw [String.join_cons, String.toList_append]
    exact hfirst.append hrest

end Insert

namespace Dataset

/-- A value is written to every column. -/
theorem complete_of_mem_inserts {dataset : Dataset} {schema : Schema} {insert : Insert}
    (h : insert ∈ dataset.inserts schema) : insert.Complete := by
  simp only [inserts, List.mem_append, List.mem_map] at h
  rcases h with ((⟨row, -, rfl⟩ | ⟨row, -, rfl⟩) | ⟨row, -, rfl⟩) | ⟨row, -, rfl⟩
  · exact ⟨List.cons_ne_nil _ _, rfl⟩
  · exact ⟨List.cons_ne_nil _ _, rfl⟩
  · refine ⟨by simp [CaseRow.insert, Schema.casesTable, Table.cases], ?_⟩
    unfold CaseRow.insert Schema.casesTable Table.cases
    cases schema.hasCaseContainer <;> rfl
  · exact ⟨List.cons_ne_nil _ _, rfl⟩

/-- A script is what stands before the rows and a line for each row. -/
theorem script_eq_ok {dataset : Dataset} {schema : Schema} {withHeader : Bool} {script : String}
    (h : dataset.script schema withHeader = .ok script) :
    ∃ lines, (dataset.inserts schema).mapM Insert.line = .ok lines ∧
      script = dataset.preamble schema withHeader ++ String.join lines := by
  unfold Dataset.script at h
  cases hlines : (dataset.inserts schema).mapM Insert.line with
  | error e => simp [hlines, bind, Except.bind] at h
  | ok lines =>
    simp only [hlines, bind, Except.bind, pure, Except.pure] at h
    cases h
    exact ⟨lines, rfl, rfl⟩

end Dataset

end Conformance
