import Conformance.Proofs.Schema.Verdict
import Conformance.Proofs.Script.Preamble
import Conformance.Proofs.Script.Reading

set_option autoImplicit false

/-!
# Rows that fit the schema

The check of a schema and the writing of rows know the tables separately: the one asks for the
columns of `Table.populated`, the other writes to a table of test cases that may have one column
more.  They agree all the same.  Every row that is written names a table that the text creates, its
columns are declared by the first such table, none is named twice, and each has a value; and the
container of a test case goes to exactly one column, which is its own where that is declared.

This is about the rows of a dataset, which stand behind the preamble.  Statements that the text of
the schema holds besides its definitions are copied with it and are not looked at.
-/

namespace Conformance

open Sql (Creates TableDefinition Value)
open Schema (DeclaresContainer IsFirst Provides)

/-- The statement fits the created tables. -/
structure Record.Fits (tables : List TableDefinition) (record : Record) : Prop where
  /-- The first table of its name declares every column that is named. -/
  provided : Provides tables record.table
  /-- No column is named twice, also not in different case. -/
  distinct : (record.table.columns.map Text.foldCase).Nodup
  /-- There are as many values as columns. -/
  length : record.table.columns.length = record.values.length

/-- The column that takes the container: its own if the first table of test cases declares it, and
the column for the group if not. -/
inductive Schema.ContainerColumn (tables : List TableDefinition) : String → Prop where
  | own (h : DeclaresContainer tables) : ContainerColumn tables Table.containerColumn
  | group (h : ¬ DeclaresContainer tables) : ContainerColumn tables "TestGroup"

/-- The statement of a test case writes its container where the created tables want it. -/
structure Record.CarriesContainer (tables : List TableDefinition) (container : Option String)
    (record : Record) : Prop where
  own : DeclaresContainer tables →
    record.value Table.containerColumn = some (.ofOption container) ∧
      record.value "TestGroup" = some .null
  group : ¬ DeclaresContainer tables →
    Table.containerColumn ∉ record.table.columns ∧
      record.value "TestGroup" = some (.ofOption container)

/-- With another container the row would have another value in the column. -/
def CaseRow.ShowsContainer (schema : Schema) (row : CaseRow) (column : String) : Prop :=
  ∃ other, (CaseRow.insert schema { row with container := other }).record.value column ≠
    (row.insert schema).record.value column

/-! ## Tables and columns -/

section

variable {tables : List TableDefinition} {schema : Schema}

/-- The table of test cases is provided in the form in which its rows are written. -/
theorem Schema.provides_casesTable (h : ∀ required ∈ Table.populated, Provides tables required)
    (hcontainer : schema.hasCaseContainer = true ↔ DeclaresContainer tables) :
    Provides tables schema.casesTable := by
  have hcases : Provides tables (Table.cases false) := h _ (by simp [Table.populated])
  unfold Schema.casesTable
  cases hflag : schema.hasCaseContainer with
  | false => exact hcases
  | true =>
    obtain ⟨table, hfirst, hcolumns⟩ := hcases
    obtain ⟨other, hother, hdeclares⟩ := hcontainer.mp hflag
    obtain rfl := hfirst.unique hother
    refine ⟨table, hfirst, fun column hcolumn => ?_⟩
    -- the columns are those that are checked, and the one for the container
    rcases List.mem_append.mp hcolumn with hchecked | hadded
    · exact hcolumns column (List.mem_append_left _ hchecked)
    · rw [if_pos rfl, List.mem_singleton] at hadded
      rwa [hadded]

/-- No table has two columns of one name. -/
theorem Table.nodup_columns {table : Table}
    (h : table ∈ [Table.steps, .parameters, .cases false, .cases true, .links]) :
    (table.columns.map Text.foldCase).Nodup := by
  have hall : ∀ table ∈ [Table.steps, .parameters, .cases false, .cases true, .links],
      (table.columns.map Text.foldCase).Nodup := by
    decide +kernel
  exact hall table h

/-- The table that a row goes to. -/
theorem Dataset.table_of_mem_inserts {dataset : Dataset} {insert : Insert}
    (h : insert ∈ dataset.inserts schema) :
    insert.table ∈ [Table.steps, .parameters, schema.casesTable, .links] := by
  simp only [Dataset.inserts, List.mem_append, List.mem_map] at h
  rcases h with ((⟨row, -, rfl⟩ | ⟨row, -, rfl⟩) | ⟨row, -, rfl⟩) | ⟨row, -, rfl⟩
  · simp [StepRow.insert]
  · simp [ParameterRow.insert]
  · simp [CaseRow.insert]
  · simp [LinkRow.insert]

/-- Every row fits the tables of an accepted schema. -/
theorem Dataset.fits_of_mem_inserts (h : ∀ required ∈ Table.populated, Provides tables required)
    (hcontainer : schema.hasCaseContainer = true ↔ DeclaresContainer tables) {dataset : Dataset}
    {insert : Insert} (hinsert : insert ∈ dataset.inserts schema) :
    insert.record.Fits tables := by
  have htable := table_of_mem_inserts hinsert
  refine ⟨?_, Table.nodup_columns ?_, (complete_of_mem_inserts hinsert).length⟩
  · change Provides tables insert.table
    simp only [List.mem_cons, List.not_mem_nil, or_false] at htable
    rcases htable with htable | htable | htable | htable <;> rw [htable]
    · exact h _ (by simp [Table.populated])
    · exact h _ (by simp [Table.populated])
    · exact Schema.provides_casesTable h hcontainer
    · exact h _ (by simp [Table.populated])
  · change insert.table ∈ _
    unfold Schema.casesTable at htable
    cases hflag : schema.hasCaseContainer <;> rw [hflag] at htable <;>
      simp only [List.mem_cons, List.not_mem_nil, or_false] at htable ⊢ <;> tauto

end

/-! ## Containers -/

theorem lookup_append_cons_of_ne {key other : String} (h : key ≠ other)
    (before after : List (String × Value)) (value : Value) :
    (before ++ (other, value) :: after).lookup key = (before ++ after).lookup key := by
  have hbeq : (key == other) = false := by simpa using h
  rw [List.lookup_append, List.lookup_append, List.lookup_cons, hbeq]

/-- The column to which a container is written under a schema. -/
def Schema.containerColumn (schema : Schema) : String :=
  if schema.hasCaseContainer then Table.containerColumn else "TestGroup"

namespace CaseRow

/-- Of what a test case writes to its columns, only one thing comes from its container. -/
theorem exists_cells (schema : Schema) (row : CaseRow) :
    ∃ before after : List (String × Value), before.lookup schema.containerColumn = none ∧
      ∀ container, (CaseRow.insert schema { row with container }).table.columns.zip
        (CaseRow.insert schema { row with container }).values =
          before ++ (schema.containerColumn, .ofOption container) :: after := by
  obtain ⟨text, hasCaseContainer⟩ := schema
  cases hasCaseContainer with
  | true =>
    exact ⟨[("Id", .integer row.id), ("TestGroup", .null),
      ("TestCaseIdentifier", .text row.identifier),
      ("TestCaseDescription", .text row.description), ("Status", .null),
      ("ExpectedStatus", .integer 1), ("Enabled", .integer 1)], [], rfl, fun _ => rfl⟩
  | false =>
    exact ⟨[("Id", .integer row.id)], [("TestCaseIdentifier", .text row.identifier),
      ("TestCaseDescription", .text row.description), ("Status", .null),
      ("ExpectedStatus", .integer 1), ("Enabled", .integer 1)], rfl, fun _ => rfl⟩

theorem value_containerColumn (schema : Schema) (row : CaseRow) :
    (row.insert schema).record.value schema.containerColumn = some (.ofOption row.container) := by
  obtain ⟨before, after, hbefore, hcells⟩ := row.exists_cells schema
  rw [Record.value]
  refine (congrArg (List.lookup schema.containerColumn) (hcells row.container)).trans ?_
  rw [List.lookup_append, hbefore, List.lookup_cons_self, Option.none_or]

/-- The container shows in its column and in no other. -/
theorem showsContainer_iff {schema : Schema} {row : CaseRow} {column : String} :
    row.ShowsContainer schema column ↔ column = schema.containerColumn := by
  constructor
  · rintro ⟨other, hother⟩
    by_contra hne
    obtain ⟨before, after, -, hcells⟩ := row.exists_cells schema
    refine hother ?_
    rw [Record.value, Record.value]
    refine (congrArg (List.lookup column) (hcells other)).trans ?_
    refine Eq.trans ?_ (congrArg (List.lookup column) (hcells row.container)).symm
    rw [lookup_append_cons_of_ne hne, lookup_append_cons_of_ne hne]
  · rintro rfl
    cases hcontainer : row.container with
    | none =>
      refine ⟨some "", ?_⟩
      rw [value_containerColumn, value_containerColumn, hcontainer]
      simp [Value.ofOption]
    | some container =>
      refine ⟨none, ?_⟩
      rw [value_containerColumn, value_containerColumn, hcontainer]
      simp [Value.ofOption]

end CaseRow

section

variable {tables : List TableDefinition} {schema : Schema}

theorem Schema.containerColumn_iff (h : schema.hasCaseContainer = true ↔ DeclaresContainer tables)
    {column : String} : ContainerColumn tables column ↔ column = schema.containerColumn := by
  unfold Schema.containerColumn
  by_cases hdeclares : DeclaresContainer tables
  · rw [if_pos (h.mpr hdeclares)]
    constructor
    · rintro (_ | hnot)
      · rfl
      · exact absurd hdeclares hnot
    · rintro rfl
      exact .own hdeclares
  · rw [if_neg (mt h.mp hdeclares)]
    constructor
    · rintro (howns | _)
      · exact absurd howns hdeclares
      · rfl
    · rintro rfl
      exact .group hdeclares

theorem CaseRow.carriesContainer (h : schema.hasCaseContainer = true ↔ DeclaresContainer tables)
    (row : CaseRow) : (row.insert schema).record.CarriesContainer tables row.container := by
  have hvalue := row.value_containerColumn schema
  obtain ⟨text, hasCaseContainer⟩ := schema
  constructor
  · intro hdeclares
    obtain rfl : hasCaseContainer = true := h.mpr hdeclares
    exact ⟨hvalue, rfl⟩
  · intro hdeclares
    obtain rfl : hasCaseContainer = false := by simpa using mt h.mp hdeclares
    refine ⟨?_, hvalue⟩
    change Table.containerColumn ∉ (Table.cases false).columns
    decide

/-- The statements for the table of test cases are those of the test cases. -/
theorem Dataset.filter_cases (dataset : Dataset) (schema : Schema) :
    ((dataset.inserts schema).map Insert.record).filter
        (fun record => record.table.name = (Table.cases false).name) =
      dataset.cases.map fun row => (row.insert schema).record := by
  have hnone {α : Type} (insert : α → Insert) (rows : List α)
      (hname : ∀ row, (insert row).table.name ≠ (Table.cases false).name) :
      ((rows.map insert).map Insert.record).filter
        (fun record => record.table.name = (Table.cases false).name) = [] := by
    rw [List.filter_eq_nil_iff]
    intro record hrecord
    obtain ⟨written, hwritten, rfl⟩ := List.mem_map.mp hrecord
    obtain ⟨row, -, rfl⟩ := List.mem_map.mp hwritten
    exact fun hequal => hname row (of_decide_eq_true hequal)
  have hall : ((dataset.cases.map (CaseRow.insert schema)).map Insert.record).filter
      (fun record => record.table.name = (Table.cases false).name) =
        (dataset.cases.map (CaseRow.insert schema)).map Insert.record := by
    rw [List.filter_eq_self]
    intro record hrecord
    obtain ⟨insert, hinsert, rfl⟩ := List.mem_map.mp hrecord
    obtain ⟨row, -, rfl⟩ := List.mem_map.mp hinsert
    exact decide_eq_true rfl
  rw [Dataset.inserts, List.map_append, List.map_append, List.map_append, List.filter_append,
    List.filter_append, List.filter_append, hall,
    hnone StepRow.insert dataset.steps fun row => by change Table.steps.name ≠ _; decide,
    hnone ParameterRow.insert dataset.parameters fun row => by
      change Table.parameters.name ≠ _; decide,
    hnone LinkRow.insert dataset.links fun row => by change Table.links.name ≠ _; decide]
  simp [Function.comp_def]

end

/-- Under an accepted schema the rows of a script are read back as statements that fit the created
tables, and those for the table of test cases write the container of their test case to one column,
which is the one that the created tables want. -/
theorem Dataset.script_fits {text : String} {schema : Schema}
    (haccept : Schema.ofText text = .ok schema) {dataset : Dataset} {withHeader : Bool}
    {script : String} (h : dataset.script schema withHeader = .ok script) :
    ∃ tables lines records, Creates text tables ∧
      script = dataset.preamble schema withHeader ++ String.join lines ∧
      Record.readAll (String.join lines).toList = some records ∧
      records.length = dataset.steps.length + dataset.parameters.length + dataset.cases.length +
        dataset.links.length ∧
      (∀ record ∈ records, record.Fits tables) ∧
      List.Forall₂ (fun row record => record = (row.insert schema).record ∧
          record.CarriesContainer tables row.container ∧
          ∀ column, row.ShowsContainer schema column ↔ Schema.ContainerColumn tables column)
        dataset.cases
        (records.filter fun record => record.table.name = (Table.cases false).name) := by
  obtain ⟨tables, hcreates, hprovides, -, hcontainer⟩ := Schema.exists_creates_of_ofText haccept
  obtain ⟨lines, hlines, rfl⟩ := script_eq_ok h
  have hcomplete : ∀ insert ∈ dataset.inserts schema, insert.Complete :=
    fun insert hinsert => complete_of_mem_inserts hinsert
  refine ⟨tables, lines, (dataset.inserts schema).map Insert.record, hcreates, rfl,
    Record.readAll_lines hcomplete hlines, by simp [inserts, Nat.add_assoc], ?_, ?_⟩
  · intro record hrecord
    obtain ⟨insert, hinsert, rfl⟩ := List.mem_map.mp hrecord
    exact fits_of_mem_inserts hprovides hcontainer hinsert
  · rw [filter_cases, List.forall₂_map_right_iff, List.forall₂_same]
    refine fun row _ => ⟨rfl, row.carriesContainer hcontainer, fun column => ?_⟩
    rw [CaseRow.showsContainer_iff, Schema.containerColumn_iff hcontainer]

/-- The four tables, and before them one of test cases under another spelling, with a column for the
container. -/
def Schema.recasedText : List String :=
  ["CREATE TABLE main.testcases ([ID], [testgroup], [TESTCASEIDENTIFIER], [testcasedescription], ",
    "[status], [expectedstatus], [enabled], [TESTCASECONTAINER]);\n"] ++ tablesText ";"

theorem Dataset.exists_script_marks (schema : Schema) (withHeader : Bool) :
    ∃ script, marks.script schema withHeader = .ok script := by
  obtain ⟨text, hasCaseContainer⟩ := schema
  cases hasCaseContainer <;> exact ⟨_, rfl⟩

theorem Dataset.marks_fits :
    ∃ schema script tables lines records,
      Schema.ofText (String.join Schema.recasedText) = .ok schema ∧
      marks.script schema true = .ok script ∧
      Creates (String.join Schema.recasedText) tables ∧
      script = marks.preamble schema true ++ String.join lines ∧
      Record.readAll (String.join lines).toList = some records ∧ records.length = 6 ∧
      (∀ record ∈ records, record.Fits tables) ∧
      List.Forall₂ (fun row record => record = (row.insert schema).record ∧
          record.CarriesContainer tables row.container ∧
          ∀ column, row.ShowsContainer schema column ↔ Schema.ContainerColumn tables column)
        marks.cases
        (records.filter fun record => record.table.name = (Table.cases false).name) := by
  have hchars : (String.join Schema.recasedText).toList = _ := String.toList_join
  obtain ⟨schema, haccept⟩ := Schema.exists_ofText hchars (by decide +kernel)
  obtain ⟨script, h⟩ := exists_script_marks schema true
  obtain ⟨tables, lines, records, hfits⟩ := script_fits haccept h
  exact ⟨schema, script, tables, lines, records, haccept, h, hfits⟩

end Conformance
