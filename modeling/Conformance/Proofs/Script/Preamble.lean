import Conformance.Proofs.Script.Lines

set_option autoImplicit false

/-!
# Where the rows of a script begin

The rows follow the text of the schema, which ends with a line end: it has one, or it is given one.
The line end keeps a comment on the last line, and everything else that the text holds, apart from
the rows; but it does not end a statement.  So the rows are statements of their own exactly when the
last significant token of the schema is a semicolon; if it is not, the first row is read as part of
the last statement of the schema.
-/

namespace Conformance

open Sql (Token significant statements tokenize)
open Sql.Lexer (Lexed readToken)

/-! ## The text before the rows -/

theorem tokenize_append_newline {cs v : List Char} {ts ts' : List Token}
    (h : tokenize cs = .ok ts) (h' : tokenize v = .ok ts') :
    ∃ us, tokenize (cs ++ '\n' :: v) = .ok us ∧
      significant us = significant ts ++ significant ts' := by
  rcases Sql.tokenize_newline h h' with hrun | hrun
  · exact ⟨_, hrun, by simp⟩
  · exact ⟨_, hrun, by simp⟩

/-- Behind a text that ends with a line end, more text is read as if it stood alone. -/
theorem tokenize_endLine {text : String} {ts : List Token} (h : tokenize text.toList = .ok ts)
    {v : List Char} {ts' : List Token} (h' : tokenize v = .ok ts') :
    ∃ us, tokenize ((endLine text).toList ++ v) = .ok us ∧
      significant us = significant ts ++ significant ts' := by
  unfold endLine
  split
  · next hlast =>
    -- the line end is there: the text without it has tokens, and the same significant ones
    obtain ⟨cs, hcs⟩ := List.getLast?_eq_some_iff.mp hlast
    rw [hcs] at h ⊢
    obtain ⟨front, hfront⟩ := Sql.exists_tokenize_of_newline h
    have hempty : tokenize [] = .ok [] := rfl
    obtain ⟨us, hus, hsame⟩ := tokenize_append_newline hfront hempty
    rw [hus] at h
    cases h
    obtain ⟨all, hall, hsignificant⟩ := tokenize_append_newline hfront h'
    refine ⟨all, by simpa using hall, ?_⟩
    rw [hsignificant, hsame, Sql.significant_nil, List.append_nil]
  · rw [String.toList_append, List.append_assoc]
    exact tokenize_append_newline h h'

/-- A line of a comment is a blank. -/
theorem lexed_lineComment {line : List Char} (h : '\n' ∉ line) (w : Bool) (v : List Char) :
    Lexed w ('-' :: '-' :: (line ++ '\n' :: v)) [.blank] false v := by
  have hread : readToken w '-' ('-' :: (line ++ '\n' :: v)) = .ok (.blank, v) := by
    simp only [readToken, Sql.Lexer.drop_line h]
  exact .single hread

namespace Dataset

/-- The second line of the header, behind the comment mark. -/
def headerCounts (dataset : Dataset) : List Char :=
  " ".toList ++ ((toString dataset.steps.length).toList ++ (" steps, ".toList ++
    ((toString dataset.parameters.length).toList ++ (" parameters, ".toList ++
      ((toString dataset.cases.length).toList ++ (" test cases, ".toList ++
        ((toString dataset.links.length).toList ++ " links".toList)))))))

theorem toList_header (dataset : Dataset) :
    dataset.header.toList =
      '-' :: '-' :: (" Generated by cctdb 0.1.0".toList ++ '\n' ::
        ('-' :: '-' :: (dataset.headerCounts ++ ['\n']))) := by
  change ("-- Generated by " ++ "cctdb" ++ " " ++ "0.1.0" ++ "\n" ++
    ("-- " ++ toString dataset.steps.length ++ " steps, " ++
      toString dataset.parameters.length ++ " parameters, ") ++
    ("" ++ toString dataset.cases.length ++ " test cases, " ++
      toString dataset.links.length ++ " links\n")).toList = _
  simp only [headerCounts, String.toList_append, List.append_assoc]
  rfl

theorem newline_notMem_headerCounts (dataset : Dataset) : '\n' ∉ dataset.headerCounts := by
  have hdigits : ∀ n : Nat, '\n' ∉ (toString n).toList := by
    intro n hmem
    have hdigit := Sql.isDigit_of_mem_repr (n := n) hmem
    cases hdigit
  simp only [headerCounts, List.mem_append, not_or]
  exact ⟨by decide, hdigits _, by decide, hdigits _, by decide, hdigits _, by decide, hdigits _,
    by decide⟩

/-- The header is two lines of comments. -/
theorem lexed_header (dataset : Dataset) (w : Bool) (v : List Char) :
    Lexed w (dataset.header.toList ++ v) [.blank, .blank] false v := by
  have hfirst : '\n' ∉ " Generated by cctdb 0.1.0".toList := by decide
  rw [toList_header]
  simpa using (lexed_lineComment hfirst w _).append
    (lexed_lineComment dataset.newline_notMem_headerCounts false v)

/-- The header adds no significant tokens. -/
theorem tokenize_header_append (dataset : Dataset) {text : String} {ts : List Token}
    (h : tokenize text.toList = .ok ts) (withHeader : Bool) :
    ∃ us, tokenize ((if withHeader then dataset.header else "") ++ text).toList = .ok us ∧
      significant us = significant ts := by
  cases withHeader with
  | false => exact ⟨ts, by simpa using h, rfl⟩
  | true =>
    obtain ⟨w, hlexed⟩ := Sql.tokenize_eq_ok_iff.mp h
    refine ⟨.blank :: .blank :: ts, Sql.tokenize_eq_ok_iff.mpr ⟨w, ?_⟩, rfl⟩
    rw [String.toList_append]
    exact (dataset.lexed_header false text.toList).append hlexed

end Dataset

/-! ## Accepted schemas -/

/-- A schema has significant tokens. -/
theorem Schema.exists_tokens_of_ofText {text : String} {schema : Schema}
    (h : Schema.ofText text = .ok schema) :
    schema.text = text ∧ ∃ ts, tokenize text.toList = .ok ts ∧ significant ts ≠ [] := by
  unfold Schema.ofText Sql.createdTables at h
  cases htokens : tokenize text.toList with
  | error e => simp [htokens] at h
  | ok ts =>
    rw [htokens] at h
    simp only at h
    refine ⟨?_, ts, rfl, ?_⟩
    · split at h
      · cases h
      · unfold Schema.check at h
        split at h
        · cases h
        · cases h
          rfl
    · -- a text without significant tokens creates no table
      intro hnil
      have hpieces : Sql.statementPieces ts = [] := by
        have hstatements := Sql.statements_eq_fragments ts
        rw [hnil] at hstatements
        simpa [statements, Text.fragments, Text.segments] using hstatements
      rw [hpieces] at h
      cases h

/-! ## Statements across the boundary -/

/-- The statement begins with the word `INSERT`. -/
def LeadsWithInsert (statement : List Token) : Prop :=
  ∃ word rest, statement = .word word (some .INSERT) :: rest

/-- A script holds the statements of a schema and then as many statements as there are rows, each
an `INSERT` statement. -/
def RowsFollow (schemaTokens scriptTokens : List Token) (count : Nat) : Prop :=
  ∃ rows, statements scriptTokens = statements schemaTokens ++ rows ∧ rows.length = count ∧
    ∀ row ∈ rows, LeadsWithInsert row

/-- The statements of a script are cut from the tokens of the schema with those of the rows. -/
theorem Dataset.statements_script {text : String} {schema : Schema}
    (haccept : Schema.ofText text = .ok schema) {dataset : Dataset} {withHeader : Bool}
    {script : String} (h : dataset.script schema withHeader = .ok script) :
    ∃ schemaTokens scriptTokens, tokenize text.toList = .ok schemaTokens ∧
      significant schemaTokens ≠ [] ∧ tokenize script.toList = .ok scriptTokens ∧
      statements scriptTokens = Text.fragments .semicolon (significant schemaTokens ++
        (dataset.inserts schema).flatMap fun insert => insert.tokens ++ [.semicolon]) := by
  obtain ⟨rfl, schemaTokens, hschema, hne⟩ := Schema.exists_tokens_of_ofText haccept
  obtain ⟨lines, hlines, rfl⟩ := script_eq_ok h
  obtain ⟨rowTokens, hrows, hsignificant⟩ :=
    Insert.lexed_lines (fun insert hinsert => complete_of_mem_inserts hinsert) hlines
  obtain ⟨bodyTokens, hbody, hsame⟩ := tokenize_header_append dataset hschema withHeader
  obtain ⟨scriptTokens, hscript, hboth⟩ := tokenize_endLine hbody hrows
  refine ⟨schemaTokens, scriptTokens, hschema, hne, ?_, ?_⟩
  · rw [String.toList_append]
    exact hscript
  · rw [Sql.statements_eq_fragments, hboth, hsame, hsignificant]

theorem Insert.tokens_ne_nil (insert : Insert) : insert.tokens ≠ [] := List.cons_ne_nil _ _

/-- The statements of the rows alone. -/
theorem Insert.fragments_rows (inserts : List Insert) :
    Text.fragments .semicolon (inserts.flatMap fun insert => insert.tokens ++ [.semicolon]) =
      inserts.map Insert.tokens := by
  rw [Text.fragments, Text.segments_flatMap_concat fun insert _ => insert.semicolon_notMem_tokens,
    List.filter_append, List.filter_eq_self.mpr]
  · simp
  · intro piece hpiece
    obtain ⟨insert, -, rfl⟩ := List.mem_map.mp hpiece
    simpa using insert.tokens_ne_nil

/-- Behind tokens that do not end with a semicolon, the rows make one statement less. -/
theorem length_fragments_rows {tokens : List Token} (hne : tokens ≠ [])
    (hlast : tokens.getLast? ≠ some .semicolon) {inserts : List Insert} (hinserts : inserts ≠ []) :
    (Text.fragments .semicolon (tokens ++
        inserts.flatMap fun insert => insert.tokens ++ [.semicolon])).length + 1 =
      (Text.fragments .semicolon tokens).length + inserts.length := by
  obtain ⟨front, last, rfl⟩ := (List.eq_nil_or_concat' tokens).resolve_left hne
  obtain ⟨insert, inserts, rfl⟩ := List.exists_cons_of_ne_nil hinserts
  have hfirst : Token.word ⟨"INSERT", none⟩ (some .INSERT) ≠ .semicolon := by simp
  have hopen : last ≠ .semicolon := by simpa using hlast
  have hrows := Insert.fragments_rows (insert :: inserts)
  rw [List.flatMap_cons, Insert.tokens] at hrows ⊢
  simp only [List.cons_append] at hrows ⊢
  rw [Text.length_fragments_append hopen hfirst, hrows, List.length_map]

/-- The rows follow exactly when there are none or the tokens before them end with a semicolon. -/
theorem rowsFollow_iff {schemaTokens scriptTokens : List Token} {inserts : List Insert}
    (hne : significant schemaTokens ≠ [])
    (hstatements : statements scriptTokens = Text.fragments .semicolon (significant schemaTokens ++
      inserts.flatMap fun insert => insert.tokens ++ [.semicolon])) :
    RowsFollow schemaTokens scriptTokens inserts.length ↔
      inserts = [] ∨ (significant schemaTokens).getLast? = some .semicolon := by
  unfold RowsFollow
  rw [hstatements, Sql.statements_eq_fragments]
  refine ⟨?_, ?_⟩
  · rintro ⟨rows, hrows, hlength, -⟩
    by_contra hnot
    obtain ⟨hinserts, hlast⟩ := not_or.mp hnot
    have hopen := length_fragments_rows hne hlast hinserts
    rw [hrows, List.length_append, hlength] at hopen
    omega
  · intro hclosed
    refine ⟨inserts.map Insert.tokens, ?_, List.length_map _, ?_⟩
    · rcases hclosed with hinserts | hlast
      · simp [hinserts]
      · obtain ⟨front, hfront⟩ := List.getLast?_eq_some_iff.mp hlast
        have hnil : Text.fragments Token.semicolon [] = [] := rfl
        rw [hfront, List.append_assoc, List.singleton_append, Text.fragments_append_cons,
          Text.fragments_append_cons, Insert.fragments_rows, hnil, List.append_nil]
    · intro row hrow
      obtain ⟨insert, -, rfl⟩ := List.mem_map.mp hrow
      exact ⟨_, _, rfl⟩

/-- The statements of a script are those of the schema and one `INSERT` statement for each row,
exactly when there are no rows or the schema ends with a semicolon, up to white space and
comments. -/
theorem Dataset.script_rowsFollow_iff {text : String} {schema : Schema}
    (haccept : Schema.ofText text = .ok schema) {dataset : Dataset} {withHeader : Bool}
    {script : String} (h : dataset.script schema withHeader = .ok script) :
    ∃ schemaTokens scriptTokens, tokenize text.toList = .ok schemaTokens ∧
      tokenize script.toList = .ok scriptTokens ∧
      (RowsFollow schemaTokens scriptTokens (dataset.inserts schema).length ↔
        dataset.inserts schema = [] ∨
          (significant schemaTokens).getLast? = some .semicolon) := by
  obtain ⟨schemaTokens, scriptTokens, hschema, hne, hscript, hstatements⟩ :=
    statements_script haccept h
  exact ⟨schemaTokens, scriptTokens, hschema, hscript, rowsFollow_iff hne hstatements⟩

/-! ## With and without a last semicolon -/

/-- Characters of a text that is accepted. -/
def Schema.accepts (chars : List Char) : Bool :=
  match tokenize chars with
  | .error _ => false
  | .ok tokens =>
    match Sql.tablesOfPieces (Sql.statementPieces tokens) with
    | .error _ => false
    | .ok tables => (Table.populated.findSome? (shortfall? tables)).isNone

theorem Schema.exists_ofText {text : String} {chars : List Char} (hchars : text.toList = chars)
    (h : accepts chars = true) : ∃ schema, ofText text = .ok schema := by
  unfold accepts at h
  unfold ofText Sql.createdTables
  rw [hchars]
  cases htokens : tokenize chars with
  | error e => simp [htokens] at h
  | ok tokens =>
    simp only [htokens] at h ⊢
    cases htables : Sql.tablesOfPieces (Sql.statementPieces tokens) with
    | error e => simp [htables] at h
    | ok tables =>
      simp only [htables, Option.isNone_iff_eq_none] at h
      refine ⟨⟨text, declaresContainer tables⟩, ?_⟩
      simp only [Except.mapError, check, h]

/-- The last token that is neither white space nor a comment. -/
def lastToken? (chars : List Char) : Option Token :=
  match tokenize chars with
  | .error _ => none
  | .ok tokens => (significant tokens).getLast?

/-- Definitions of the four tables, with an ending. -/
def Schema.tablesText (ending : String) : List String :=
  ["CREATE TABLE [TestSteps] ([Id], [Description], [Class], [Method], [NumParameters]);\n",
    "CREATE TABLE [TestStepParameters] ([Id], [TestStepId], [TestId], [Value], [ParamOrder]);\n",
    "CREATE TABLE [TestCases] ([Id], [TestGroup], [TestCaseIdentifier], [TestCaseDescription], ",
    "[Status], [ExpectedStatus], [Enabled]);\n",
    "CREATE TABLE [TestsToSteps] ([Id], [TestStepId], [TestId], [ExecutionOrder], [Status])", ending]

theorem Schema.accepts_tablesText : accepts ((tablesText "").flatMap String.toList) = true := by
  decide +kernel

/-- One step, and nothing else. -/
def Dataset.oneStep : Dataset where
  steps := [⟨1, "S1", "C", "m", "", 0⟩]
  parameters := []
  cases := []
  links := []

theorem Dataset.exists_script_oneStep (schema : Schema) (withHeader : Bool) :
    ∃ script, oneStep.script schema withHeader = .ok script := ⟨_, rfl⟩

/-- With a semicolon behind the last table, also before a comment, the row follows. -/
theorem Dataset.closed_rowsFollow :
    ∃ schema script schemaTokens scriptTokens,
      Schema.ofText (String.join (Schema.tablesText "; -- end")) = .ok schema ∧
      oneStep.script schema true = .ok script ∧
      tokenize (String.join (Schema.tablesText "; -- end")).toList = .ok schemaTokens ∧
      tokenize script.toList = .ok scriptTokens ∧
      RowsFollow schemaTokens scriptTokens (oneStep.inserts schema).length := by
  have hchars : (String.join (Schema.tablesText "; -- end")).toList = _ := String.toList_join
  obtain ⟨schema, haccept⟩ := Schema.exists_ofText hchars (by decide +kernel)
  obtain ⟨script, h⟩ := exists_script_oneStep schema true
  obtain ⟨schemaTokens, scriptTokens, hschema, hscript, hiff⟩ := script_rowsFollow_iff haccept h
  refine ⟨schema, script, schemaTokens, scriptTokens, haccept, h, hschema, hscript, ?_⟩
  have hlast : lastToken? ((Schema.tablesText "; -- end").flatMap String.toList) =
      some .semicolon := by
    decide +kernel
  rw [hchars] at hschema
  simp only [lastToken?, hschema] at hlast
  exact hiff.mpr (.inr hlast)

/-- Without a semicolon behind the last table the row is read as part of its definition. -/
theorem Dataset.open_not_rowsFollow :
    ∃ schema script schemaTokens scriptTokens,
      Schema.ofText (String.join (Schema.tablesText "")) = .ok schema ∧
      oneStep.script schema false = .ok script ∧
      tokenize (String.join (Schema.tablesText "")).toList = .ok schemaTokens ∧
      tokenize script.toList = .ok scriptTokens ∧
      ¬ RowsFollow schemaTokens scriptTokens (oneStep.inserts schema).length := by
  have hchars : (String.join (Schema.tablesText "")).toList = _ := String.toList_join
  obtain ⟨schema, haccept⟩ := Schema.exists_ofText hchars Schema.accepts_tablesText
  obtain ⟨script, h⟩ := exists_script_oneStep schema false
  obtain ⟨schemaTokens, scriptTokens, hschema, hne, hscript, hstatements⟩ :=
    statements_script haccept h
  refine ⟨schema, script, schemaTokens, scriptTokens, haccept, h, hschema, hscript, ?_⟩
  have hlast : lastToken? ((Schema.tablesText "").flatMap String.toList) = some .rightParen := by
    decide +kernel
  rw [hchars] at hschema
  simp only [lastToken?, hschema] at hlast
  rw [rowsFollow_iff hne hstatements, hlast]
  simp [inserts, oneStep]

end Conformance
