import Conformance.Proofs.Schema.Provision
import Conformance.Proofs.Sql.Survey

set_option autoImplicit false

/-!
# The verdict on a schema

A text is malformed, or it creates tables.  In the second case it is a schema exactly when every
table that receives rows is provided, and otherwise it is refused for the first thing that is
missing, tables in the order of writing and the columns of each in the order of writing.
-/

namespace Conformance.Schema

open Sql (Creates Malformed createdTables createdTables_eq_ok_iff)

theorem ofText_of_creates {text : String} {tables : List Sql.TableDefinition}
    (h : Creates text tables) : ofText text = check text tables := by
  rw [ofText, createdTables_eq_ok_iff.mpr h]

theorem exists_ofText_eq_malformed_iff {text : String} :
    (∃ cause, ofText text = .error (.malformed cause)) ↔ Malformed text := by
  rw [← Sql.exists_createdTables_eq_error_iff]
  unfold ofText
  cases createdTables text with
  | error cause => simp
  | ok tables =>
    simp only [check_eq_error_iff, reduceCtorEq, exists_false, iff_false, not_exists]
    -- a missing table or column is no malformation
    rintro cause ⟨before, required, after, -, -, hlacks⟩
    cases hlacks

theorem malformed_or_exists_creates (text : String) :
    Malformed text ∨ ∃ tables, Creates text tables := by
  cases h : createdTables text with
  | error cause => exact .inl (Sql.exists_createdTables_eq_error_iff.mp ⟨cause, h⟩)
  | ok tables => exact .inr ⟨tables, createdTables_eq_ok_iff.mp h⟩

/-- The tables that an accepted text creates. -/
theorem exists_creates_of_ofText {text : String} {schema : Schema} (h : ofText text = .ok schema) :
    ∃ tables, Creates text tables ∧ (∀ required ∈ Table.populated, Provides tables required) ∧
      schema.text = text ∧ (schema.hasCaseContainer = true ↔ DeclaresContainer tables) := by
  rcases malformed_or_exists_creates text with hmalformed | ⟨tables, hcreates⟩
  · obtain ⟨cause, herror⟩ := exists_ofText_eq_malformed_iff.mpr hmalformed
    rw [h] at herror
    cases herror
  · rw [ofText_of_creates hcreates, check_eq_ok_iff] at h
    exact ⟨tables, hcreates, h⟩

/-- A text is refused as malformed exactly when it is; and if it is not, it is a schema exactly when
the tables it creates provide all that receive rows, and refused otherwise for what is missing
first. -/
theorem ofText_verdict (text : String) :
    ((∃ cause, ofText text = .error (.malformed cause)) ↔ Malformed text) ∧
    (Malformed text ∨ ∃ tables, Creates text tables ∧
      (∀ schema, ofText text = .ok schema ↔
        (∀ required ∈ Table.populated, Provides tables required) ∧ schema.text = text ∧
          (schema.hasCaseContainer = true ↔ DeclaresContainer tables)) ∧
      ∀ error, ofText text = .error error ↔ FirstLack tables error) := by
  refine ⟨exists_ofText_eq_malformed_iff, ?_⟩
  rcases malformed_or_exists_creates text with hmalformed | ⟨tables, hcreates⟩
  · exact .inl hmalformed
  · refine .inr ⟨tables, hcreates, fun schema => ?_, fun error => ?_⟩
    · rw [ofText_of_creates hcreates, check_eq_ok_iff]
    · rw [ofText_of_creates hcreates, check_eq_error_iff]

end Conformance.Schema
