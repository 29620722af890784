import Conformance.Proofs.Traversal
import Conformance.Script

set_option autoImplicit false

/-!
# Datasets without a script

A script is refused for one reason only: a text that would be written holds the character NUL.
`Dataset.texts` lists the texts of a dataset with the places they are written to, in the order of
writing; where a container stands among the texts of its test case depends on the schema.  The
first of them that holds NUL is the one the error names (`Dataset.script_refused`).
-/

namespace Conformance

open Sql (Value)

/-- A text that is written, with its place: the table, the column and the number of the row. -/
structure PlacedText where
  table : String
  column : String
  row : Int
  text : String
  deriving DecidableEq, Repr

/-- The text holds the character NUL. -/
def HoldsNul (text : String) : Prop := '\x00' ∈ text.toList

instance (text : String) : Decidable (HoldsNul text) := inferInstanceAs (Decidable (_ ∈ _))

namespace PlacedText

/-- The error that names the place of a text. -/
def refusal (placed : PlacedText) : ExportError :=
  .unsafeLiteral placed.table placed.column placed.row .nulCharacter

/-- The error for the first text that holds NUL. -/
def firstRefusal (texts : List PlacedText) : Option ExportError :=
  (texts.find? fun placed => HoldsNul placed.text).map refusal

theorem firstRefusal_flatMap {α : Type} (f : α → List PlacedText) (xs : List α) :
    firstRefusal (xs.flatMap f) = xs.findSome? fun x => firstRefusal (f x) := by
  rw [firstRefusal, List.find?_flatMap, List.map_findSome?]
  rfl

theorem firstRefusal_eq_some_iff {texts : List PlacedText} {e : ExportError} :
    firstRefusal texts = some e ↔
      ∃ before placed after, texts = before ++ placed :: after ∧
        (∀ earlier ∈ before, ¬ HoldsNul earlier.text) ∧ HoldsNul placed.text ∧
        e = placed.refusal := by
  rw [firstRefusal, Option.map_eq_some_iff]
  constructor
  · rintro ⟨placed, hfind, rfl⟩
    obtain ⟨hnul, before, after, rfl, hbefore⟩ := List.find?_eq_some_iff_append.mp hfind
    exact ⟨before, placed, after, rfl, by simpa using hbefore, by simpa using hnul, rfl⟩
  · rintro ⟨before, placed, after, rfl, hbefore, hnul, rfl⟩
    refine ⟨placed, List.find?_eq_some_iff_append.mpr ⟨by simpa using hnul, ?_⟩, rfl⟩
    exact ⟨before, after, rfl, by simpa using hbefore⟩

theorem exists_firstRefusal_iff {texts : List PlacedText} :
    (∃ e, firstRefusal texts = some e) ↔ ∃ placed ∈ texts, HoldsNul placed.text := by
  rw [← Option.isSome_iff_exists, firstRefusal, Option.isSome_map, List.find?_isSome]
  simp

theorem exists_holdsNul_flatMap_iff {α : Type} {f : α → List PlacedText} {xs : List α} :
    (∃ placed ∈ xs.flatMap f, HoldsNul placed.text) ↔
      ∃ x ∈ xs, ∃ placed ∈ f x, HoldsNul placed.text := by
  constructor
  · rintro ⟨placed, hplaced, hnul⟩
    obtain ⟨x, hx, hplaced⟩ := List.mem_flatMap.mp hplaced
    exact ⟨x, hx, placed, hplaced, hnul⟩
  · rintro ⟨x, hx, placed, hplaced, hnul⟩
    exact ⟨placed, List.mem_flatMap.mpr ⟨x, hx, hplaced⟩, hnul⟩

end PlacedText

open PlacedText (firstRefusal)

/-! ## The texts of a dataset -/

namespace StepRow

/-- The texts of a step that are written; its description is not. -/
def texts (row : StepRow) : List PlacedText :=
  [⟨"TestSteps", "Description", row.id, row.identifier⟩,
    ⟨"TestSteps", "Class", row.id, row.className⟩, ⟨"TestSteps", "Method", row.id, row.method⟩]

/-- NUL occurs in the identifier, the class or the method. -/
def WritesNul (row : StepRow) : Prop :=
  HoldsNul row.identifier ∨ HoldsNul row.className ∨ HoldsNul row.method

theorem exists_holdsNul_iff {row : StepRow} :
    (∃ placed ∈ row.texts, HoldsNul placed.text) ↔ row.WritesNul := by
  simp [texts, WritesNul]

end StepRow

namespace ParameterRow

/-- The text of a parameter. -/
def texts (row : ParameterRow) : List PlacedText :=
  [⟨"TestStepParameters", "Value", row.id, row.value⟩]

/-- NUL occurs in the value. -/
def WritesNul (row : ParameterRow) : Prop := HoldsNul row.value

theorem exists_holdsNul_iff {row : ParameterRow} :
    (∃ placed ∈ row.texts, HoldsNul placed.text) ↔ row.WritesNul := by
  simp [texts, WritesNul]

end ParameterRow

namespace CaseRow

/-- The container of a test case, if it has one, in a column. -/
def containerTexts (row : CaseRow) (column : String) : List PlacedText :=
  row.container.toList.map fun container => ⟨"TestCases", column, row.id, container⟩

/-- The texts of a test case.  The container stands behind the others where it has a column of its
own, and before them where it takes the column of the group. -/
def texts (ownColumn : Bool) (row : CaseRow) : List PlacedText :=
  (if ownColumn then [] else row.containerTexts "TestGroup") ++
    [⟨"TestCases", "TestCaseIdentifier", row.id, row.identifier⟩,
      ⟨"TestCases", "TestCaseDescription", row.id, row.description⟩] ++
    (if ownColumn then row.containerTexts "TestCaseContainer" else [])

/-- NUL occurs in the identifier, the description or the container. -/
def WritesNul (row : CaseRow) : Prop :=
  HoldsNul row.identifier ∨ HoldsNul row.description ∨
    ∃ container, row.container = some container ∧ HoldsNul container

/-- Where the container stands does not matter for this. -/
theorem exists_holdsNul_iff {ownColumn : Bool} {row : CaseRow} :
    (∃ placed ∈ row.texts ownColumn, HoldsNul placed.text) ↔ row.WritesNul := by
  obtain ⟨id, identifier, description, container⟩ := row
  cases container with
  | none => cases ownColumn <;> simp [texts, containerTexts, WritesNul]
  | some container =>
    cases ownColumn with
    | true => simp [texts, containerTexts, WritesNul]
    | false =>
      simp only [texts, containerTexts, WritesNul, Bool.false_eq_true, if_false, Option.toList_some,
        List.map_singleton, List.append_nil, List.singleton_append, List.exists_mem_cons_iff,
        List.not_mem_nil, Option.some.injEq, exists_eq_left', false_and, exists_false, or_false]
      rw [or_comm, or_assoc]

end CaseRow

namespace Dataset

/-- The texts of a dataset in the order of writing.  Links have none. -/
def texts (dataset : Dataset) (schema : Schema) : List PlacedText :=
  dataset.steps.flatMap StepRow.texts ++ dataset.parameters.flatMap ParameterRow.texts ++
    dataset.cases.flatMap (CaseRow.texts schema.hasCaseContainer)

/-- A text that is written holds NUL. -/
def WritesNul (dataset : Dataset) : Prop :=
  (∃ row ∈ dataset.steps, row.WritesNul) ∨ (∃ row ∈ dataset.parameters, row.WritesNul) ∨
    ∃ row ∈ dataset.cases, row.WritesNul

theorem exists_holdsNul_iff (dataset : Dataset) (schema : Schema) :
    (∃ placed ∈ dataset.texts schema, HoldsNul placed.text) ↔ dataset.WritesNul := by
  simp only [texts, List.mem_append, or_and_right, exists_or, WritesNul,
    PlacedText.exists_holdsNul_flatMap_iff, StepRow.exists_holdsNul_iff,
    ParameterRow.exists_holdsNul_iff, CaseRow.exists_holdsNul_iff, or_assoc]

end Dataset

/-! ## The error of a row -/

namespace Insert

/-- The text that a value puts in a column, if it is one. -/
def textsAt (insert : Insert) (column : String) : Value → List PlacedText
  | .text text => [⟨insert.table.name, column, insert.row, text⟩]
  | .integer _ => []
  | .null => []

/-- The texts that a row is written with. -/
def texts (insert : Insert) : List PlacedText :=
  (insert.table.columns.zip insert.values).flatMap fun (column, value) =>
    insert.textsAt column value

/-- A value is refused for the NUL in its text. -/
theorem error?_literal (insert : Insert) (column : String) (value : Value) :
    Traversal.error?
        (value.literal.mapError (.unsafeLiteral insert.table.name column insert.row)) =
      firstRefusal (insert.textsAt column value) := by
  cases value with
  | null => rfl
  | integer n => rfl
  | text s =>
    by_cases h : '\x00' ∈ s.toList <;>
      simp [Value.literal, Sql.quoteText, Except.mapError, Traversal.error?, firstRefusal, textsAt,
        PlacedText.refusal, HoldsNul, h]

theorem error?_literals (insert : Insert) :
    Traversal.error? insert.literals = firstRefusal insert.texts := by
  rw [literals, Traversal.error?_mapM, texts, PlacedText.firstRefusal_flatMap]
  congr 1
  funext ⟨column, value⟩
  exact insert.error?_literal column value

theorem error?_line (insert : Insert) :
    Traversal.error? insert.line = firstRefusal insert.texts := by
  rw [← error?_literals, line, Traversal.error?_bind_pure]

end Insert

/-! ## The error of a script -/

namespace StepRow

theorem texts_insert (row : StepRow) : row.insert.texts = row.texts := rfl

end StepRow

namespace ParameterRow

theorem texts_insert (row : ParameterRow) : row.insert.texts = row.texts := rfl

end ParameterRow

namespace CaseRow

theorem texts_insert (schema : Schema) (row : CaseRow) :
    (row.insert schema).texts = row.texts schema.hasCaseContainer := by
  obtain ⟨id, identifier, description, container⟩ := row
  unfold insert Schema.casesTable
  cases schema.hasCaseContainer <;> cases container <;> rfl

end CaseRow

namespace LinkRow

theorem texts_insert (row : LinkRow) : row.insert.texts = [] := rfl

end LinkRow

namespace Dataset

theorem flatMap_texts_inserts (dataset : Dataset) (schema : Schema) :
    (dataset.inserts schema).flatMap Insert.texts = dataset.texts schema := by
  simp only [inserts, texts, List.flatMap_append, List.flatMap_map, StepRow.texts_insert,
    ParameterRow.texts_insert, CaseRow.texts_insert, LinkRow.texts_insert]
  simp

theorem error?_script (dataset : Dataset) (schema : Schema) (withHeader : Bool) :
    Traversal.error? (dataset.script schema withHeader) =
      firstRefusal (dataset.texts schema) := by
  rw [script, Traversal.error?_bind_pure, Traversal.error?_mapM, ← flatMap_texts_inserts,
    PlacedText.firstRefusal_flatMap]
  simp only [Insert.error?_line]

/-- A script is refused exactly when a text that would be written holds NUL, and the error names
the first of these texts by its table, its column and the number of its row. -/
theorem script_refused (dataset : Dataset) (schema : Schema) (withHeader : Bool) :
    ((∃ e, dataset.script schema withHeader = .error e) ↔ dataset.WritesNul) ∧
      ∀ e, dataset.script schema withHeader = .error e ↔
        ∃ before placed after, dataset.texts schema = before ++ placed :: after ∧
          (∀ earlier ∈ before, ¬ HoldsNul earlier.text) ∧ HoldsNul placed.text ∧
          e = .unsafeLiteral placed.table placed.column placed.row .nulCharacter := by
  constructor
  · rw [← exists_holdsNul_iff dataset schema, ← PlacedText.exists_firstRefusal_iff,
      ← error?_script dataset schema withHeader]
    simp only [Traversal.error?_eq_some_iff]
  · intro e
    rw [← Traversal.error?_eq_some_iff, error?_script, PlacedText.firstRefusal_eq_some_iff]
    rfl

/-- The container is the first text of its test case only where it has no column of its own. -/
example (text : String) (ownColumn : Bool) :
    ({ cases := [⟨7, "\x00", "", some "\x00"⟩] } : Dataset).script ⟨text, ownColumn⟩ false =
      .error (.unsafeLiteral "TestCases" (if ownColumn then "TestCaseIdentifier" else "TestGroup") 7
        .nulCharacter) := by
  cases ownColumn <;> rfl

end Dataset

end Conformance
