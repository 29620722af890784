import Conformance.Proofs.Script.Lines

set_option autoImplicit false

/-!
# Reading a script back

The part of a script behind the schema is read as a sequence of `INSERT` statements: it is cut into
tokens and at semicolons, and each statement names a table, its columns and as many values.  Every
value is then found again by the name of its column.  What comes out are the rows of the dataset
that was written, in order, with their counts as words of 64 bits; only the descriptions of steps
are not written.
-/

namespace Conformance

open Sql (Token Value significant)

/-! ## Statements -/

/-- An `INSERT` statement as it is read: the table with the named columns, and the values. -/
structure Record where
  table : Table
  values : List Value
  deriving DecidableEq, Repr

namespace Record

/-- The name that a token between double quotes stands for. -/
def name? : List Token → Option String
  | [.word ⟨name, some '\x22'⟩ none] => some name
  | _ => none

/-- The number that digits stand for. -/
def natural? (digits : String) : Option Nat :=
  if digits.toList.all Char.isDigit then some (Nat.ofDigitChars 10 digits.toList 0) else none

/-- The value that tokens between commas stand for. -/
def value? : List Token → Option Value
  | [.word ⟨_, none⟩ (some .NULL)] => some .null
  | [.number digits false] => (natural? digits).map fun n => .integer n
  | [.operator sign, .number digits false] =>
    if sign = "-" then (natural? digits).map fun n => .integer (-n) else none
  | [.text s] => some (.text s)
  | _ => none

/-- The statement that significant tokens spell, with as many values as columns. -/
def ofTokens? (tokens : List Token) : Option Record :=
  match Text.segments .rightParen tokens with
  | [.word ⟨_, none⟩ (some .INSERT) :: .word ⟨_, none⟩ (some .INTO) :: .word ⟨name, some '\x22'⟩ none ::
        .leftParen :: columns,
      .word ⟨_, none⟩ (some .VALUES) :: .leftParen :: values, []] => do
    let columns ← (Text.segments .comma columns).mapM name?
    let values ← (Text.segments .comma values).mapM value?
    if columns.length = values.length then some ⟨⟨name, columns⟩, values⟩ else none
  | _ => none

/-- The statements of a text, each ended by a semicolon. -/
def readAll (text : List Char) : Option (List Record) :=
  match Sql.tokenize text with
  | .error _ => none
  | .ok tokens =>
    let pieces := Text.segments .semicolon (significant tokens)
    if pieces.getLast? = some [] then pieces.dropLast.mapM ofTokens? else none

/-! ## Columns -/

/-- The value of a column. -/
def value (record : Record) (column : String) : Option Value :=
  (record.table.columns.zip record.values).lookup column

/-- The number in a column. -/
def integer (record : Record) (column : String) : Option Int :=
  match record.value column with
  | some (.integer n) => some n
  | _ => none

/-- The count in a column, as an unsigned word of 64 bits. -/
def count (record : Record) (column : String) : Option Nat :=
  (record.integer column).map fun n => Int.toNat (n % Int.ofNat (Nat.pow 2 64))

/-- The text in a column. -/
def text (record : Record) (column : String) : Option String :=
  match record.value column with
  | some (.text s) => some s
  | _ => none

/-- The text in a column, or its absence. -/
def text? (record : Record) (column : String) : Option (Option String) :=
  match record.value column with
  | some (.text s) => some (some s)
  | some .null => some none
  | _ => none

end Record

/-! ## Rows -/

/-- The row of the step table that a statement writes; its description is not written. -/
def StepRow.ofRecord? (record : Record) : Option StepRow := do
  let id ← record.integer "Id"
  let identifier ← record.text "Description"
  let className ← record.text "Class"
  let method ← record.text "Method"
  let parameterCount ← record.count "NumParameters"
  return { id, identifier, className, method, description := "", parameterCount }

/-- The row of the parameter table that a statement writes. -/
def ParameterRow.ofRecord? (record : Record) : Option ParameterRow := do
  let id ← record.integer "Id"
  let stepId ← record.integer "TestStepId"
  let value ← record.text "Value"
  let order ← record.count "ParamOrder"
  return { id, stepId, value, order }

/-- The container that a statement writes: in the column for the container if there is one, and
then none as the group, else as the group. -/
def Record.container? (record : Record) : Option (Option String) :=
  if Table.containerColumn ∈ record.table.columns then
    if record.value "TestGroup" = some .null then record.text? Table.containerColumn else none
  else record.text? "TestGroup"

/-- The row of the case table that a statement writes. -/
def CaseRow.ofRecord? (record : Record) : Option CaseRow := do
  let id ← record.integer "Id"
  let identifier ← record.text "TestCaseIdentifier"
  let description ← record.text "TestCaseDescription"
  let container ← record.container?
  return { id, identifier, description, container }

/-- The row of the link table that a statement writes. -/
def LinkRow.ofRecord? (record : Record) : Option LinkRow := do
  let id ← record.integer "Id"
  let stepId ← record.integer "TestStepId"
  let caseId ← record.integer "TestId"
  let order ← record.count "ExecutionOrder"
  return { id, caseId, stepId, order }

/-- A row of one of the four tables. -/
inductive DatasetRow where
  | step (row : StepRow)
  | parameter (row : ParameterRow)
  | testCase (row : CaseRow)
  | link (row : LinkRow)
  deriving DecidableEq, Repr

/-- The row that a statement writes, by the name of the table. -/
def DatasetRow.ofRecord? (record : Record) : Option DatasetRow :=
  match record.table.name with
  | "TestSteps" => (StepRow.ofRecord? record).map .step
  | "TestStepParameters" => (ParameterRow.ofRecord? record).map .parameter
  | "TestCases" => (CaseRow.ofRecord? record).map .testCase
  | "TestsToSteps" => (LinkRow.ofRecord? record).map .link
  | _ => none

/-- What a script keeps of a dataset: its rows in order, counts as words of 64 bits, and no
descriptions of steps. -/
def Dataset.written (dataset : Dataset) : List DatasetRow :=
  dataset.steps.map (fun row =>
      .step { row with description := "", parameterCount := row.parameterCount % Nat.pow 2 64 }) ++
    dataset.parameters.map (fun row => .parameter { row with order := row.order % Nat.pow 2 64 }) ++
    dataset.cases.map .testCase ++
    dataset.links.map fun row => .link { row with order := row.order % Nat.pow 2 64 }

/-! ## Reading what was written -/

namespace Record

theorem natural?_repr (n : Nat) : natural? n.repr = some n := by
  have hall : n.repr.toList.all Char.isDigit = true := by
    rw [List.all_eq_true]
    exact fun d hd => Sql.isDigit_of_mem_repr hd
  rw [natural?, if_pos hall, Nat.toList_repr, Nat.ofDigitChars_ten_toDigits]

theorem value?_tokens (value : Value) : value? value.tokens = some value := by
  cases value with
  | null => rfl
  | text s => rfl
  | integer n =>
    cases n with
    | ofNat n =>
      change (natural? n.repr).map (fun n => Value.integer n) = _
      rw [natural?_repr]
      rfl
    | negSucc n =>
      change (natural? (n + 1).repr).map (fun n => Value.integer (-n)) = _
      rw [natural?_repr]
      rfl

end Record

/-- What a statement says: the table with its columns, and the values. -/
def Insert.record (insert : Insert) : Record := ⟨insert.table, insert.values⟩

namespace Record

/-- A statement is read as it was written. -/
theorem ofTokens?_tokens {insert : Insert} (h : insert.Complete) :
    ofTokens? insert.tokens = some insert.record := by
  have hvalues : insert.values ≠ [] := by
    intro hnil
    have hlength := h.length
    rw [hnil, List.length_nil, List.length_eq_zero_iff] at hlength
    exact h.nonempty hlength
  have hpieces : Text.segments .rightParen insert.tokens =
      [.word ⟨"INSERT", none⟩ (some .INSERT) :: .word ⟨"INTO", none⟩ (some .INTO) ::
          .word ⟨insert.table.name, some '\x22'⟩ none :: .leftParen ::
            [.comma].intercalate (insert.table.columns.map fun column => [Insert.nameToken column]),
        .word ⟨"VALUES", none⟩ (some .VALUES) :: .leftParen ::
          [.comma].intercalate (insert.values.map Value.tokens), []] := by
    have hsplit : insert.tokens =
        (.word ⟨"INSERT", none⟩ (some .INSERT) :: .word ⟨"INTO", none⟩ (some .INTO) ::
          .word ⟨insert.table.name, some '\x22'⟩ none :: .leftParen ::
            [.comma].intercalate
              (insert.table.columns.map fun column => [Insert.nameToken column])) ++
        .rightParen :: ((.word ⟨"VALUES", none⟩ (some .VALUES) :: .leftParen ::
          [.comma].intercalate (insert.values.map Value.tokens)) ++ .rightParen :: []) := by
      simp [Insert.tokens, Insert.nameToken]
    rw [hsplit, Text.segments_of_notMem_append_cons, Text.segments_of_notMem_append_cons]
    · rfl
    · simpa using Insert.notMem_values .rightParen (by simp) insert.values
    · simpa using Insert.notMem_columns .rightParen (by simp) insert.table.columns
  have hcolumns : (Text.segments .comma ([Token.comma].intercalate
      (insert.table.columns.map fun column => [Insert.nameToken column]))).mapM name? =
        some insert.table.columns := by
    have hread : ∀ column ∈ insert.table.columns,
        name? [Insert.nameToken column] = some (id column) := fun _ _ => rfl
    rw [Text.segments_intercalate (by simpa using h.nonempty) (by simp [Insert.nameToken]),
      Traversal.mapM_map_eq_some hread, List.map_id]
  have hliterals : (Text.segments .comma ([Token.comma].intercalate
      (insert.values.map Value.tokens))).mapM value? = some insert.values := by
    have hread : ∀ value ∈ insert.values, value? value.tokens = some (id value) :=
      fun value _ => value?_tokens value
    rw [Text.segments_intercalate (by simpa using hvalues), Traversal.mapM_map_eq_some hread,
      List.map_id]
    intro piece hpiece
    obtain ⟨value, -, rfl⟩ := List.mem_map.mp hpiece
    exact Insert.notMem_tokens (by simp) value
  unfold ofTokens?
  rw [hpieces]
  simp only [hcolumns, hliterals, bind, Option.bind, h.length, if_true]
  rfl

/-- The lines of rows are read as their statements, in order. -/
theorem readAll_lines {inserts : List Insert} (hcomplete : ∀ insert ∈ inserts, insert.Complete)
    {lines : List String} (h : inserts.mapM Insert.line = .ok lines) :
    readAll (String.join lines).toList = some (inserts.map Insert.record) := by
  obtain ⟨tokens, htokens, hsignificant⟩ := Insert.lexed_lines hcomplete h
  have hpieces : Text.segments .semicolon (significant tokens) =
      inserts.map Insert.tokens ++ [[]] := by
    rw [hsignificant]
    exact Text.segments_flatMap_concat fun insert _ => insert.semicolon_notMem_tokens
  have hrecords : (inserts.map Insert.tokens).mapM ofTokens? = some (inserts.map Insert.record) :=
    Traversal.mapM_map_eq_some fun insert hinsert => ofTokens?_tokens (hcomplete insert hinsert)
  unfold readAll
  rw [htokens]
  simp only [hpieces, List.getLast?_concat, List.dropLast_concat, if_true, hrecords]

end Record

/-! ## Rows by their columns -/

theorem Record.count_of_value {record : Record} {column : String} {n : Nat}
    (h : record.value column = some (.ofCount n)) :
    record.count column = some (n % Nat.pow 2 64) := by
  rw [Value.ofCount] at h
  simp only [Record.count, Record.integer, h, Option.map_some]
  generalize Nat.pow 2 64 = size
  change some (Int.toNat (Int.bmod n size % (size : Int))) = _
  rw [Int.bmod_emod, ← Int.natCast_emod, Int.toNat_natCast]

theorem StepRow.ofRecord?_insert (row : StepRow) :
    StepRow.ofRecord? row.insert.record = some
      { row with description := "", parameterCount := row.parameterCount % Nat.pow 2 64 } := by
  have hcount : row.insert.record.count "NumParameters" = some (row.parameterCount % Nat.pow 2 64) :=
    Record.count_of_value rfl
  have hid : row.insert.record.integer "Id" = some row.id := rfl
  have hidentifier : row.insert.record.text "Description" = some row.identifier := rfl
  have hclass : row.insert.record.text "Class" = some row.className := rfl
  have hmethod : row.insert.record.text "Method" = some row.method := rfl
  simp only [StepRow.ofRecord?, hcount, hid, hidentifier, hclass, hmethod]
  rfl

theorem ParameterRow.ofRecord?_insert (row : ParameterRow) :
    ParameterRow.ofRecord? row.insert.record = some
      { row with order := row.order % Nat.pow 2 64 } := by
  have horder : row.insert.record.count "ParamOrder" = some (row.order % Nat.pow 2 64) :=
    Record.count_of_value rfl
  have hid : row.insert.record.integer "Id" = some row.id := rfl
  have hstep : row.insert.record.integer "TestStepId" = some row.stepId := rfl
  have hvalue : row.insert.record.text "Value" = some row.value := rfl
  simp only [ParameterRow.ofRecord?, horder, hid, hstep, hvalue]
  rfl

/-- An optional text is found where it was written. -/
theorem Record.text?_of_value {record : Record} {column : String} {s : Option String}
    (h : record.value column = some (.ofOption s)) : record.text? column = some s := by
  rw [Record.text?, h]
  cases s <;> rfl

theorem CaseRow.ofRecord?_insert (schema : Schema) (row : CaseRow) :
    CaseRow.ofRecord? (row.insert schema).record = some row := by
  obtain ⟨text, hasCaseContainer⟩ := schema
  have hcontainer : (row.insert ⟨text, hasCaseContainer⟩).record.container? = some row.container := by
    cases hasCaseContainer with
    | true =>
      have hcolumn : Table.containerColumn ∈ (row.insert ⟨text, true⟩).record.table.columns := by
        simp [Insert.record, CaseRow.insert, Schema.casesTable, Table.cases]
      have hgroup : (row.insert ⟨text, true⟩).record.value "TestGroup" = some .null := rfl
      rw [Record.container?, if_pos hcolumn, if_pos hgroup]
      exact Record.text?_of_value rfl
    | false =>
      have hcolumn : Table.containerColumn ∉ (row.insert ⟨text, false⟩).record.table.columns := by
        simp [Insert.record, CaseRow.insert, Schema.casesTable, Table.cases, Table.containerColumn]
      rw [Record.container?, if_neg hcolumn]
      exact Record.text?_of_value rfl
  have hid : (row.insert ⟨text, hasCaseContainer⟩).record.integer "Id" = some row.id := by
    cases hasCaseContainer <;> rfl
  have hidentifier : (row.insert ⟨text, hasCaseContainer⟩).record.text "TestCaseIdentifier" =
      some row.identifier := by
    cases hasCaseContainer <;> rfl
  have hdescription : (row.insert ⟨text, hasCaseContainer⟩).record.text "TestCaseDescription" =
      some row.description := by
    cases hasCaseContainer <;> rfl
  simp only [CaseRow.ofRecord?, hcontainer, hid, hidentifier, hdescription]
  rfl

theorem LinkRow.ofRecord?_insert (row : LinkRow) :
    LinkRow.ofRecord? row.insert.record = some { row with order := row.order % Nat.pow 2 64 } := by
  have horder : row.insert.record.count "ExecutionOrder" = some (row.order % Nat.pow 2 64) :=
    Record.count_of_value rfl
  have hid : row.insert.record.integer "Id" = some row.id := rfl
  have hstep : row.insert.record.integer "TestStepId" = some row.stepId := rfl
  have hcase : row.insert.record.integer "TestId" = some row.caseId := rfl
  simp only [LinkRow.ofRecord?, horder, hid, hstep, hcase]
  rfl

/-- The rows of a dataset are found again in the statements that write them. -/
theorem Dataset.mapM_ofRecord?_inserts (dataset : Dataset) (schema : Schema) :
    ((dataset.inserts schema).map Insert.record).mapM DatasetRow.ofRecord? =
      some dataset.written := by
  have hsteps : ∀ row ∈ dataset.steps, DatasetRow.ofRecord? (Insert.record row.insert) =
      some (.step { row with
        description := "", parameterCount := row.parameterCount % Nat.pow 2 64 }) := by
    intro row _
    have hname : row.insert.record.table.name = "TestSteps" := rfl
    simp only [DatasetRow.ofRecord?, hname, StepRow.ofRecord?_insert, Option.map_some]
  have hparameters : ∀ row ∈ dataset.parameters, DatasetRow.ofRecord? (Insert.record row.insert) =
      some (.parameter { row with order := row.order % Nat.pow 2 64 }) := by
    intro row _
    have hname : row.insert.record.table.name = "TestStepParameters" := rfl
    simp only [DatasetRow.ofRecord?, hname, ParameterRow.ofRecord?_insert, Option.map_some]
  have hcases : ∀ row ∈ dataset.cases, DatasetRow.ofRecord? (Insert.record (row.insert schema)) =
      some (.testCase row) := by
    intro row _
    have hname : (row.insert schema).record.table.name = "TestCases" := rfl
    simp only [DatasetRow.ofRecord?, hname, CaseRow.ofRecord?_insert, Option.map_some]
  have hlinks : ∀ row ∈ dataset.links, DatasetRow.ofRecord? (Insert.record row.insert) =
      some (.link { row with order := row.order % Nat.pow 2 64 }) := by
    intro row _
    have hname : row.insert.record.table.name = "TestsToSteps" := rfl
    simp only [DatasetRow.ofRecord?, hname, LinkRow.ofRecord?_insert, Option.map_some]
  simp only [inserts, List.map_append, List.map_map, List.mapM_append, Function.comp_def,
    Traversal.mapM_map_eq_some hsteps, Traversal.mapM_map_eq_some hparameters,
    Traversal.mapM_map_eq_some hcases, Traversal.mapM_map_eq_some hlinks]
  rfl

/-- Behind the schema a script holds one statement for each row of the dataset, in order, and from
these statements the rows are read back. -/
theorem Dataset.script_reads_back {dataset : Dataset} {schema : Schema} {withHeader : Bool}
    {script : String} (h : dataset.script schema withHeader = .ok script) :
    ∃ lines : List String,
      script = dataset.preamble schema withHeader ++ String.join lines ∧
      List.Forall₂ (fun (insert : Insert) line => ∃ literals, line = insert.statement literals ∧
          List.Forall₂ (fun value literal => value.literal = .ok literal) insert.values literals)
        (dataset.inserts schema) lines ∧
      Record.readAll (String.join lines).toList =
        some ((dataset.inserts schema).map Insert.record) ∧
      ((dataset.inserts schema).map Insert.record).mapM DatasetRow.ofRecord? =
        some dataset.written := by
  obtain ⟨lines, hlines, rfl⟩ := script_eq_ok h
  have hcomplete : ∀ insert ∈ dataset.inserts schema, insert.Complete :=
    fun insert hinsert => complete_of_mem_inserts hinsert
  refine ⟨lines, rfl, ?_, Record.readAll_lines hcomplete hlines,
    dataset.mapM_ofRecord?_inserts schema⟩
  rw [Traversal.mapM_eq_ok_iff] at hlines
  exact (List.forall₂_and_left _ _ |>.mpr ⟨hcomplete, hlines⟩).imp
    fun _ _ hline => Insert.line_eq_ok hline.1 hline.2

/-- A dataset whose texts hold quotes, semicolons, parentheses, comment marks and line ends. -/
def Dataset.marks : Dataset where
  steps := [⟨1, "a\x27); DROP TABLE t; --", "\x22K\x22", "", "not written", 2⟩]
  parameters := [⟨-1, 1, "\x27\x27", 0⟩, ⟨2, 1, "\n/* NULL */ (\x27", 18446744073709551617⟩]
  cases := [⟨1, ";\r\n", "\x27", none⟩, ⟨2, "", "", some ", NULL"⟩]
  links := [⟨1, 2, 1, 0⟩]

theorem Dataset.marks_reads_back :
    ∃ (script : String) (lines : List String), marks.script .builtIn true = .ok script ∧
      script = marks.preamble .builtIn true ++ String.join lines ∧
      Record.readAll (String.join lines).toList =
        some ((marks.inserts .builtIn).map Insert.record) ∧
      ((marks.inserts .builtIn).map Insert.record).mapM DatasetRow.ofRecord? =
        some marks.written := by
  cases hscript : marks.script .builtIn true with
  | error error =>
    have hok : (marks.script .builtIn true).isOk = true := by decide +kernel
    rw [hscript] at hok
    cases hok
  | ok script =>
    obtain ⟨lines, hpreamble, -, hrecords, hrows⟩ := script_reads_back hscript
    exact ⟨script, lines, rfl, hpreamble, hrecords, hrows⟩

end Conformance
