import Conformance.Schema

set_option autoImplicit false

/-!
# What the created tables provide

A table that receives rows is provided by the first created table of its name, if that table
declares every column the rows fill; a later table of the same name does not count.  Names agree up
to the case of ASCII letters.  What a required table lacks is either a table of its name or, in the
first one, a column, of which the first in the order of writing is reported.
-/

namespace Conformance

open Sql (TableDefinition)

namespace Sql.TableDefinition

/-- The table goes by this name. -/
def Named (table : TableDefinition) (name : String) : Prop :=
  Text.foldCase table.name = Text.foldCase name

/-- The table declares a column of this name. -/
def Declares (table : TableDefinition) (column : String) : Prop :=
  ∃ declared ∈ table.columns, Text.foldCase declared = Text.foldCase column

theorem hasColumn_iff {table : TableDefinition} {column : String} :
    table.hasColumn column = true ↔ table.Declares column := by
  simp only [hasColumn, List.any_eq_true, Text.sameName_iff, Declares]

end Sql.TableDefinition

namespace Schema

/-- The first of some tables that goes by a name. -/
def IsFirst (tables : List TableDefinition) (name : String) (table : TableDefinition) : Prop :=
  ∃ before after, tables = before ++ table :: after ∧ table.Named name ∧
    ∀ other ∈ before, ¬ other.Named name

/-- The first table of its name declares every column of a required table. -/
def Provides (tables : List TableDefinition) (required : Table) : Prop :=
  ∃ table, IsFirst tables required.name table ∧
    ∀ column ∈ required.columns, table.Declares column

/-- What a required table lacks. -/
inductive Lacks (tables : List TableDefinition) (required : Table) : SchemaError → Prop where
  | table (hnone : ∀ table ∈ tables, ¬ table.Named required.name) :
      Lacks tables required (.missingTable required.name)
  | column {table : TableDefinition} {before after : List String} {column : String}
      (hfirst : IsFirst tables required.name table)
      (hcolumns : required.columns = before ++ column :: after)
      (hbefore : ∀ other ∈ before, table.Declares other) (hcolumn : ¬ table.Declares column) :
      Lacks tables required (.missingColumn required.name column)

/-- What the first table that is not provided lacks, among those that receive rows. -/
def FirstLack (tables : List TableDefinition) (error : SchemaError) : Prop :=
  ∃ before required after, Table.populated = before ++ required :: after ∧
    (∀ other ∈ before, Provides tables other) ∧ Lacks tables required error

/-- The first table of test cases declares a column for the container. -/
def DeclaresContainer (tables : List TableDefinition) : Prop :=
  ∃ table, IsFirst tables (Table.cases false).name table ∧ table.Declares Table.containerColumn

variable {tables : List TableDefinition} {name : String}

/-! ## The first table of a name -/

theorem definition?_eq_some_iff {table : TableDefinition} :
    definition? tables name = some table ↔ IsFirst tables name table := by
  simp only [definition?, List.find?_eq_some_iff_append, Bool.not_eq_true', ← Bool.not_eq_true,
    Text.sameName_iff, IsFirst, Sql.TableDefinition.Named]
  constructor
  · rintro ⟨hnamed, before, after, htables, hbefore⟩
    exact ⟨before, after, htables, hnamed, hbefore⟩
  · rintro ⟨before, after, htables, hnamed, hbefore⟩
    exact ⟨hnamed, before, after, htables, hbefore⟩

theorem definition?_eq_none_iff :
    definition? tables name = none ↔ ∀ table ∈ tables, ¬ table.Named name := by
  simp only [definition?, List.find?_eq_none, Text.sameName_iff, Sql.TableDefinition.Named]

/-- There is only one first table of a name. -/
theorem IsFirst.unique {table other : TableDefinition} (h : IsFirst tables name table)
    (hother : IsFirst tables name other) : table = other := by
  rw [← definition?_eq_some_iff] at h hother
  exact Option.some.inj (h.symm.trans hother)

theorem IsFirst.mem {table : TableDefinition} (h : IsFirst tables name table) : table ∈ tables := by
  obtain ⟨before, after, rfl, -, -⟩ := h
  simp

/-- A name belongs to no table, or there is a first one it belongs to. -/
theorem none_named_or_exists_first (tables : List TableDefinition) (name : String) :
    (∀ table ∈ tables, ¬ table.Named name) ∨ ∃ table, IsFirst tables name table := by
  cases h : definition? tables name with
  | none => exact .inl (definition?_eq_none_iff.mp h)
  | some table => exact .inr ⟨table, definition?_eq_some_iff.mp h⟩

/-! ## What is missing -/

theorem shortfall?_of_first {required : Table} {table : TableDefinition}
    (h : IsFirst tables required.name table) :
    shortfall? tables required = (required.columns.find? fun column => !table.hasColumn column).map
      (.missingColumn required.name) := by
  rw [shortfall?, definition?_eq_some_iff.mpr h]

theorem shortfall?_of_none_named {required : Table}
    (h : ∀ table ∈ tables, ¬ table.Named required.name) :
    shortfall? tables required = some (.missingTable required.name) := by
  rw [shortfall?, definition?_eq_none_iff.mpr h]

theorem shortfall?_eq_none_iff {required : Table} :
    shortfall? tables required = none ↔ Provides tables required := by
  rcases none_named_or_exists_first tables required.name with hnone | ⟨table, hfirst⟩
  · rw [shortfall?_of_none_named hnone]
    refine ⟨nofun, ?_⟩
    rintro ⟨table, hfirst, -⟩
    have hmem := hfirst.mem
    obtain ⟨before, after, -, hnamed, -⟩ := hfirst
    exact absurd hnamed (hnone table hmem)
  · rw [shortfall?_of_first hfirst, Option.map_eq_none_iff, List.find?_eq_none]
    simp only [Bool.not_eq_true', Bool.not_eq_false, Sql.TableDefinition.hasColumn_iff]
    refine ⟨fun hcolumns => ⟨table, hfirst, hcolumns⟩, ?_⟩
    rintro ⟨other, hother, hcolumns⟩
    rwa [hfirst.unique hother]

theorem shortfall?_eq_some_iff {required : Table} {error : SchemaError} :
    shortfall? tables required = some error ↔ Lacks tables required error := by
  constructor
  · intro h
    rcases none_named_or_exists_first tables required.name with hnone | ⟨table, hfirst⟩
    · rw [shortfall?_of_none_named hnone] at h
      cases h
      exact .table hnone
    · rw [shortfall?_of_first hfirst, Option.map_eq_some_iff] at h
      obtain ⟨column, hfind, rfl⟩ := h
      obtain ⟨hcolumn, before, after, hcolumns, hbefore⟩ := List.find?_eq_some_iff_append.mp hfind
      refine .column hfirst hcolumns (fun other hother => ?_) ?_
      · simpa [Sql.TableDefinition.hasColumn_iff] using hbefore other hother
      · simpa [← Sql.TableDefinition.hasColumn_iff] using hcolumn
  · rintro (hnone | ⟨hfirst, hcolumns, hbefore, hcolumn⟩)
    · exact shortfall?_of_none_named hnone
    · rw [shortfall?_of_first hfirst, Option.map_eq_some_iff]
      refine ⟨_, List.find?_eq_some_iff_append.mpr ⟨?_, _, _, hcolumns, ?_⟩, rfl⟩
      · simpa [← Sql.TableDefinition.hasColumn_iff] using hcolumn
      · intro other hother
        simpa [Sql.TableDefinition.hasColumn_iff] using hbefore other hother

/-! ## The check -/

theorem declaresContainer_iff : declaresContainer tables = true ↔ DeclaresContainer tables := by
  unfold declaresContainer DeclaresContainer
  simp only [← definition?_eq_some_iff, ← Sql.TableDefinition.hasColumn_iff]
  cases definition? tables (Table.cases false).name with
  | none => simp
  | some table => simp

/-- The first shortfall among the tables that receive rows. -/
theorem findSome?_shortfall?_eq_some_iff {error : SchemaError} :
    Table.populated.findSome? (shortfall? tables) = some error ↔ FirstLack tables error := by
  rw [List.findSome?_eq_some_iff]
  simp only [FirstLack, shortfall?_eq_some_iff, shortfall?_eq_none_iff]
  constructor
  · rintro ⟨before, required, after, hpopulated, hlacks, hbefore⟩
    exact ⟨before, required, after, hpopulated, hbefore, hlacks⟩
  · rintro ⟨before, required, after, hpopulated, hbefore, hlacks⟩
    exact ⟨before, required, after, hpopulated, hlacks, hbefore⟩

theorem findSome?_shortfall?_eq_none_iff :
    Table.populated.findSome? (shortfall? tables) = none ↔
      ∀ required ∈ Table.populated, Provides tables required := by
  simp only [List.findSome?_eq_none_iff, shortfall?_eq_none_iff]

theorem check_eq_ok_iff {text : String} {schema : Schema} :
    check text tables = .ok schema ↔
      (∀ required ∈ Table.populated, Provides tables required) ∧ schema.text = text ∧
        (schema.hasCaseContainer = true ↔ DeclaresContainer tables) := by
  rw [← findSome?_shortfall?_eq_none_iff, ← declaresContainer_iff, ← Bool.eq_iff_iff, check]
  cases Table.populated.findSome? (shortfall? tables) with
  | some error => simp
  | none =>
    obtain ⟨schemaText, hasCaseContainer⟩ := schema
    simp [eq_comm]

theorem check_eq_error_iff {text : String} {error : SchemaError} :
    check text tables = .error error ↔ FirstLack tables error := by
  rw [← findSome?_shortfall?_eq_some_iff, check]
  cases Table.populated.findSome? (shortfall? tables) <;> simp

end Schema

end Conformance
