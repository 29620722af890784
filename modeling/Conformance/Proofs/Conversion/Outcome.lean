import Conformance.Conversion
import Conformance.Proofs.Catalog.Report
import Conformance.Proofs.Dataset.Numbering
import Conformance.Proofs.TestCase.Report

set_option autoImplicit false

/-!
# The outcome of a conversion

Once the sheets are selected, three things can happen.  The selection is accepted: then the
dataset numbers the steps that the catalog holds and the test cases that the overview describes, and
it comes with the report on the selected rows (`ofSelection_of_accepts`).  Or a rejected identifier
repeats, or a row of the overview is at fault (`outcome_of_violates`).  One of the three is always
the case (`accepts_or_violates`), and only one, since each decides the outcome.
-/

namespace Conformance

namespace Selection

/-- The data rows of the category sheets, in scan order. -/
def categoryRows (s : Selection) : List SheetRow :=
  (s.categories.map PlacedSheet.sheet).flatMap Sheet.dataRows

/-- The rows of the category sheets that define a step, in scan order. -/
def definitions (s : Selection) : List SheetRow := definingRows s.categoryRows

/-- The identifiers that the category sheets define, with repetitions. -/
def stepIds (s : Selection) : List String := s.definitions.map SheetRow.stepId

/-- The data rows of the overview. -/
def overviewRows (s : Selection) : List SheetRow := s.overview.sheet.dataRows

/-- The test cases that the overview describes. -/
def testCases (s : Selection) : List TestCase :=
  (describingRows s.overviewRows).map SheetRow.testCase

/-- Nothing stands in the way of converting the selected sheets. -/
structure Accepts (s : Selection) (policy : DuplicatePolicy) : Prop where
  /-- Where repetitions are rejected, there are none. -/
  distinct : policy = .reject → s.stepIds.Nodup
  /-- Every row of the overview fits the defined identifiers. -/
  fits : ∀ row ∈ s.overviewRows, row.Fits s.stepIds

/-- What stands in the way first: a repeated identifier in scan order, else a row of the
overview. -/
inductive Violates (s : Selection) (policy : DuplicatePolicy) : ConvertError → Prop where
  | repeated {first second : SheetRow} (hpolicy : policy = .reject)
      (hrepeat : FirstSeen.FirstRepeat SheetRow.stepId s.definitions first second) :
      Violates s policy (.duplicateStep second.stepId first.location second.location)
  | fault {before after : List SheetRow} {row : SheetRow} {error : ConvertError}
      (hdistinct : policy = .reject → s.stepIds.Nodup)
      (hrows : s.overviewRows = before ++ row :: after)
      (hbefore : ∀ row ∈ before, row.Fits s.stepIds)
      (hfault : row.Fault s.stepIds error) : Violates s policy error

/-- What is reported on the selected sheets: on the category rows, then on the overview rows. -/
def report (s : Selection) (policy : DuplicatePolicy) : List Issue :=
  Report.running (Catalog.rowIssues policy) [] s.categoryRows ++
    Report.running TestCase.overviewIssues [] s.overviewRows

end Selection

/-- The tables of a catalog and of test cases that refer to it. -/
def Dataset.tables (catalog : Catalog) (testCases : List TestCase) : Dataset where
  steps := stepRows catalog
  parameters := parameterRows catalog
  cases := caseRows testCases
  links := resolvedLinks catalog testCases

namespace Conversion

variable {selection : Selection} {policy : DuplicatePolicy}

/-- The outcomes of the stages, one after the other. -/
theorem outcome_ofSelection (selection : Selection) (policy : DuplicatePolicy) :
    (ofSelection selection policy).outcome = (do
      let catalog ← (Catalog.build (selection.categories.map PlacedSheet.sheet) policy).outcome
      let testCases ← (TestCase.assemble selection.overview.sheet catalog).outcome
      Dataset.assign catalog testCases) := by
  change (Audit.bind _ fun catalog => Audit.bind _ fun testCases => Audit.ofExcept _).outcome = _
  simp only [Audit.outcome_bind]
  rfl

/-- A catalog of the defined steps knows the defined identifiers. -/
theorem mem_ids_iff {catalog : Catalog}
    (h : catalog.Holds policy (selection.definitions.map SheetRow.step)) {id : String} :
    id ∈ catalog.ids ↔ id ∈ selection.stepIds := by
  rw [h.mem_ids_iff, List.map_map, SheetRow.id_comp_step, Selection.stepIds]

/-- An accepted selection is converted into the tables of its catalog and its test cases, with the
report on its rows. -/
theorem ofSelection_of_accepts (h : selection.Accepts policy) :
    ∃ catalog : Catalog, catalog.Holds policy (selection.definitions.map SheetRow.step) ∧
      ofSelection selection policy =
        ⟨selection.report policy, .ok (Dataset.tables catalog selection.testCases)⟩ := by
  obtain ⟨catalog, hbuild, hholds⟩ :=
    Catalog.exists_build_eq policy (selection.categories.map PlacedSheet.sheet) h.distinct
  have hfits : ∀ row ∈ selection.overview.sheet.dataRows, row.Fits catalog.ids := by
    intro row hrow
    rw [SheetRow.fits_congr fun _ => mem_ids_iff hholds]
    exact h.fits row hrow
  have hassemble : (TestCase.assemble selection.overview.sheet catalog).outcome =
      .ok selection.testCases := TestCase.outcome_assemble_eq_ok hfits
  have hassign : Dataset.assign catalog selection.testCases =
      .ok (Dataset.tables catalog selection.testCases) :=
    Dataset.assign_eq_ok (TestCase.references_mem_ids hassemble)
  refine ⟨catalog, hholds, ?_⟩
  change (Audit.bind _ fun catalog => Audit.bind _ fun testCases => Audit.ofExcept _) = _
  rw [Audit.bind_of_outcome_eq_ok (congrArg Audit.outcome hbuild), hbuild,
    Audit.bind_of_outcome_eq_ok hassemble, TestCase.issues_assemble hfits, hassign]
  simp only [Audit.ofExcept, List.append_nil]
  rfl

theorem outcome_of_accepts (h : selection.Accepts policy) :
    ∃ catalog : Catalog, catalog.Holds policy (selection.definitions.map SheetRow.step) ∧
      (ofSelection selection policy).outcome = .ok {
        steps := Dataset.stepRows catalog
        parameters := Dataset.parameterRows catalog
        cases := Dataset.caseRows selection.testCases
        links := Dataset.resolvedLinks catalog selection.testCases } := by
  obtain ⟨catalog, hholds, hselection⟩ := ofSelection_of_accepts h
  exact ⟨catalog, hholds, by rw [hselection, Dataset.tables]⟩

/-- What stands in the way first is the error. -/
theorem outcome_of_violates {error : ConvertError} (h : selection.Violates policy error) :
    (ofSelection selection policy).outcome = .error error := by
  rw [outcome_ofSelection]
  cases h with
  | repeated hpolicy hrepeat =>
    subst hpolicy
    rw [Catalog.outcome_build_eq_error hrepeat]
    rfl
  | fault hdistinct hrows hbefore hfault =>
    obtain ⟨catalog, hbuild, hholds⟩ := Catalog.outcome_build_eq_ok hdistinct
    have hassemble : (TestCase.assemble selection.overview.sheet catalog).outcome =
        .error error := by
      refine TestCase.outcome_assemble_eq_error_iff.mpr ⟨_, _, _, hrows, ?_, ?_⟩
      · intro row hrow
        rw [SheetRow.fits_congr fun _ => mem_ids_iff hholds]
        exact hbefore row hrow
      · exact hfault.congr fun _ => (mem_ids_iff hholds).symm
    rw [hbuild]
    simp only [bind, Except.bind, hassemble]

/-- A selection that is not accepted has something that stands in the way first. -/
theorem accepts_or_violates (selection : Selection) (policy : DuplicatePolicy) :
    selection.Accepts policy ∨ ∃ error, selection.Violates policy error := by
  by_cases hdistinct : policy = .reject → selection.stepIds.Nodup
  · by_cases hfits : ∀ row ∈ selection.overviewRows, row.Fits selection.stepIds
    · exact Or.inl ⟨hdistinct, hfits⟩
    · obtain ⟨before, row, after, hrows, hbefore, hrow⟩ := FirstSeen.exists_first_not hfits
      obtain ⟨error, hfault⟩ := SheetRow.exists_fault hrow
      exact Or.inr ⟨error, .fault hdistinct hrows hbefore hfault⟩
  · obtain ⟨hpolicy, hnot⟩ := Classical.not_imp.mp hdistinct
    obtain ⟨first, second, hrepeat⟩ := FirstSeen.exists_firstRepeat hnot
    exact Or.inr ⟨_, .repeated hpolicy hrepeat⟩

end Conversion

end Conformance
