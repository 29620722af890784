import Conformance.Proofs.Conversion.Acceptance

set_option autoImplicit false

/-!
# What a conversion consists of

A conversion that succeeds was made from an accepted selection: its tables number the steps of a
catalog and the test cases of the overview, its issues are the report on the category rows followed
by the report on the overview rows, and its counts are those of the tables and the issues.  All of
this is said in terms of the selected rows (`exists_madeFrom_of_convert`), so that two conversions
can be compared by comparing their rows.
-/

namespace Conformance

namespace Conversion

/-- The parts of a conversion in terms of the selection it was made from, with the catalog of that
selection. -/
structure MadeFrom (conversion : Conversion) (selection : Selection) (policy : DuplicatePolicy)
    (catalog : Catalog) : Prop where
  accepts : selection.Accepts policy
  holds : catalog.Holds policy (selection.definitions.map SheetRow.step)
  dataset : conversion.dataset = Dataset.tables catalog selection.testCases
  issues : conversion.issues = selection.report policy
  summary : conversion.summary =
    summarize selection (Dataset.tables catalog selection.testCases) (selection.report policy)

variable {selection : Selection} {policy : DuplicatePolicy}

/-- The test cases refer to steps of the catalog alone. -/
theorem MadeFrom.references_mem {conversion : Conversion} {catalog : Catalog}
    (h : conversion.MadeFrom selection policy catalog) :
    ∀ testCase ∈ selection.testCases, ∀ reference ∈ testCase.steps, reference ∈ catalog.ids := by
  intro testCase hcase reference hreference
  rw [mem_ids_iff h.holds]
  exact TestCase.references_mem_of_fits h.accepts.fits testCase hcase reference hreference

/-- A conversion is made from the selection of its layout. -/
theorem exists_madeFrom_of_convert {wb : Workbook} {options : Options} {conversion : Conversion}
    (h : convert wb options = .ok conversion) :
    ∃ selection catalog, options.layout.resolve wb = .ok selection ∧
      conversion.MadeFrom selection options.onDuplicate catalog := by
  obtain ⟨selection, hlayout, haccepts⟩ := exists_accepts_of_convert h
  obtain ⟨catalog, hholds, hselection⟩ := ofSelection_of_accepts haccepts
  unfold convert at h
  simp only [hlayout, hselection] at h
  cases h
  exact ⟨selection, catalog, hlayout, haccepts, hholds, rfl, rfl, rfl⟩

end Conversion

end Conformance
