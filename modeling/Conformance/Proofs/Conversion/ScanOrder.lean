import Conformance.Proofs.Conversion.Normalisation
import Conformance.Proofs.Conversion.Report
import Conformance.Proofs.Layout.Resolution

set_option autoImplicit false

/-!
# The order of the category sheets

Where repeated identifiers are rejected, it does not matter in which order the category sheets are
listed, except for the numbers given to steps and parameters (`convert_scanOrder`).

Another order of the sheets is another order of the rows that define steps.  Whether identifiers
repeat, which identifiers there are and what is reported on a row without one does not depend on
that order.  As no identifier repeats, the catalog is the list of defined steps, so the two
catalogs hold the same steps, each under its own number.  Two links made for one reference then
lead to the step of this reference in either dataset.
-/

namespace Conformance

/-- Options that list the category sheets and reject repeated identifiers. -/
def Options.listing (overview : SheetRef) (categories : List SheetRef) : Options where
  layout := { overview, categories := .listed categories }
  onDuplicate := .reject

/-- The error is found in a row of the overview. -/
def ConvertError.InOverview : ConvertError → Prop
  | .unknownStepReference .. | .emptyStepReference .. | .caseWithoutIdentifier .. => True
  | .layout _ | .duplicateStep .. => False

namespace Dataset

/-- What the tables say of a step without regard to numbers: its row, and the values and positions
of its parameters. -/
def describe (d : Dataset) (step : StepRow) : StepRow × List (String × Nat) :=
  ({ step with id := 0 },
    (d.parametersOf step).map fun parameter => (parameter.value, parameter.order))

/-- A link of one dataset is the link of another, up to the numbers of steps. -/
structure SameLink (d e : Dataset) (link other : LinkRow) : Prop where
  id : link.id = other.id
  caseId : link.caseId = other.caseId
  order : link.order = other.order
  leads : ∃ identifier, d.identifiersAt link.stepId = [identifier] ∧
    e.identifiersAt other.stepId = [identifier]

end Dataset

/-- Two conversions differ only in the numbers of steps and parameters and in the order that goes
with them. -/
structure Conversion.Renumbers (a b : Conversion) : Prop where
  cases : a.dataset.cases = b.dataset.cases
  links : List.Forall₂ (a.dataset.SameLink b.dataset) a.dataset.links b.dataset.links
  steps : (a.dataset.steps.map a.dataset.describe).Perm (b.dataset.steps.map b.dataset.describe)
  summary : a.summary = b.summary
  issues : a.issues.Perm b.issues

/-! ## The same sheets in another order -/

namespace Selection

variable {s t : Selection} {policy : DuplicatePolicy}

namespace Permutes

theorem overviewRows (h : s.Permutes t) : s.overviewRows = t.overviewRows := by
  rw [Selection.overviewRows, h.overview, Selection.overviewRows]

theorem testCases (h : s.Permutes t) : s.testCases = t.testCases := by
  rw [Selection.testCases, h.overviewRows, Selection.testCases]

theorem categoryRows (h : s.Permutes t) : s.categoryRows.Perm t.categoryRows :=
  (h.categories.map PlacedSheet.sheet).flatMap_right Sheet.dataRows

theorem definitions (h : s.Permutes t) : s.definitions.Perm t.definitions :=
  h.categoryRows.filter _

theorem stepIds (h : s.Permutes t) : s.stepIds.Perm t.stepIds :=
  h.definitions.map SheetRow.stepId

theorem accepts (h : s.Permutes t) (haccepts : s.Accepts policy) : t.Accepts policy where
  distinct hpolicy := h.stepIds.nodup_iff.mp (haccepts.distinct hpolicy)
  fits row hrow := by
    rw [← h.overviewRows] at hrow
    rw [← SheetRow.fits_congr fun _ => h.stepIds.mem_iff]
    exact haccepts.fits row hrow

/-- A fault of the overview does not depend on the order of the category sheets. -/
theorem violates (h : s.Permutes t) {error : ConvertError} (herror : error.InOverview)
    (hviolates : s.Violates policy error) : t.Violates policy error := by
  cases hviolates with
  | repeated => cases herror
  | fault hdistinct hrows hbefore hfault =>
    rw [h.overviewRows] at hrows
    refine .fault (fun hpolicy => h.stepIds.nodup_iff.mp (hdistinct hpolicy)) hrows ?_ ?_
    · intro row hrow
      rw [← SheetRow.fits_congr fun _ => h.stepIds.mem_iff]
      exact hbefore row hrow
    · exact hfault.congr fun _ => h.stepIds.mem_iff

/-- Where no identifier repeats, every row is reported on by itself. -/
theorem report (h : s.Permutes t) (hdistinct : s.stepIds.Nodup) :
    (s.report policy).Perm (t.report policy) := by
  rw [Selection.report, Selection.report, h.overviewRows,
    Catalog.running_rowIssues_of_nodup hdistinct,
    Catalog.running_rowIssues_of_nodup (h.stepIds.nodup_iff.mp hdistinct)]
  exact (h.categoryRows.flatMap_right Catalog.blankIssues).append_right _

end Permutes

end Selection

/-! ## The same steps under other numbers -/

namespace Dataset

variable {d e : Dataset} {catalog other : Catalog} {testCases : List TestCase}

theorem map_describe (hd : d = tables catalog testCases) :
    d.steps.map d.describe =
      catalog.steps.map fun step => (stepRow (step, 0), step.parameters.zipIdx) := by
  have hsteps : d.steps = stepRows catalog := by rw [hd, tables]
  have hparameters : d.parameters = parameterRows catalog := by rw [hd, tables]
  rw [hsteps, stepRows_eq_map, List.map_map]
  refine map_numbered fun i step hstep => ?_
  have hvalues := map_parametersOf hparameters
    (fun parameter => (parameter.value, parameter.order)) id (fun _ => rfl) hstep
  rw [Function.comp_apply, describe, hvalues, List.map_id]
  rfl

theorem length_parameterRows (catalog : Catalog) :
    (parameterRows catalog).length = (catalog.steps.flatMap TestStep.parameters).length := by
  rw [parameterRows_eq_map, List.length_map, numbered, List.length_zipIdx, length_entries]

/-- The links of the same test cases, with the steps numbered by two catalogs. -/
theorem forall₂_sameLink (hd : d = tables catalog testCases) (he : e = tables other testCases)
    (hcatalog : ∀ testCase ∈ testCases, ∀ reference ∈ testCase.steps, reference ∈ catalog.ids)
    (hother : ∀ testCase ∈ testCases, ∀ reference ∈ testCase.steps, reference ∈ other.ids) :
    List.Forall₂ (d.SameLink e) d.links e.links := by
  have hdlinks : d.links = resolvedLinks catalog testCases := by rw [hd, tables]
  have helinks : e.links = resolvedLinks other testCases := by rw [he, tables]
  rw [hdlinks, helinks, resolvedLinks_eq_map_references, resolvedLinks_eq_map_references,
    List.forall₂_map_left_iff, List.forall₂_map_right_iff, List.forall₂_same]
  intro entry hentry
  obtain ⟨testCase, hcase, hreference⟩ :=
    exists_of_mem_entries (List.fst_mem_of_mem_zipIdx hentry)
  refine ⟨rfl, rfl, rfl, entry.1.2.1, ?_, ?_⟩
  · exact identifiersAt_number (by rw [hd, tables]) (hcatalog testCase hcase _ hreference)
  · exact identifiersAt_number (by rw [he, tables]) (hother testCase hcase _ hreference)

end Dataset

/-! ## Conversions -/

theorem IssueCount.ofIssues_perm {issues others : List Issue} (h : issues.Perm others) :
    ofIssues issues = ofIssues others := by
  simp only [ofIssues, h.countP_eq]

namespace Conversion

variable {a b : Conversion} {s t : Selection} {catalog other : Catalog}

/-- Where repeated identifiers are rejected, the catalog is the list of defined steps. -/
theorem MadeFrom.steps_eq (h : a.MadeFrom s .reject catalog) :
    catalog.steps = s.definitions.map SheetRow.step := by
  apply h.holds.steps_eq_of_nodup
  rw [List.map_map, SheetRow.id_comp_step]
  exact h.accepts.distinct rfl

/-- Conversions of the same sheets in another order differ only in numbers. -/
theorem MadeFrom.renumbers (ha : a.MadeFrom s .reject catalog) (hb : b.MadeFrom t .reject other)
    (h : s.Permutes t) : a.Renumbers b := by
  have hsteps : catalog.steps.Perm other.steps := by
    rw [ha.steps_eq, hb.steps_eq]
    exact h.definitions.map SheetRow.step
  have hissues : (s.report .reject).Perm (t.report .reject) := h.report (ha.accepts.distinct rfl)
  have hdataset : b.dataset = Dataset.tables other s.testCases := by rw [hb.dataset, h.testCases]
  have hdescribed : (a.dataset.steps.map a.dataset.describe).Perm
      (b.dataset.steps.map b.dataset.describe) := by
    rw [Dataset.map_describe ha.dataset, Dataset.map_describe hdataset]
    exact hsteps.map _
  have hlinks : List.Forall₂ (a.dataset.SameLink b.dataset) a.dataset.links b.dataset.links := by
    apply Dataset.forall₂_sameLink ha.dataset hdataset ha.references_mem
    rw [h.testCases]
    exact hb.references_mem
  have hcases : a.dataset.cases = b.dataset.cases := by
    rw [ha.dataset, hdataset, Dataset.tables, Dataset.tables]
  have hstepCount : a.dataset.steps.length = b.dataset.steps.length := by
    simpa using hdescribed.length_eq
  have hparameterCount : a.dataset.parameters.length = b.dataset.parameters.length := by
    rw [ha.dataset, hdataset, Dataset.tables, Dataset.tables, Dataset.length_parameterRows,
      Dataset.length_parameterRows]
    exact (hsteps.flatMap_right TestStep.parameters).length_eq
  refine ⟨hcases, hlinks, hdescribed, ?_, ?_⟩
  · rw [ha.summary, hb.summary, ← ha.dataset, ← hb.dataset, summarize, summarize,
      h.categories.length_eq, hstepCount, hparameterCount, hcases, hlinks.length_eq,
      IssueCount.ofIssues_perm hissues]
  · rw [ha.issues, hb.issues]
    exact hissues

variable {wb : Workbook} {overview : SheetRef} {refs others : List SheetRef}

theorem exists_convert_of_perm (h : refs.Perm others)
    (hconvert : ∃ a, convert wb (.listing overview refs) = .ok a) :
    ∃ b, convert wb (.listing overview others) = .ok b := by
  obtain ⟨a, ha⟩ := hconvert
  obtain ⟨s, hs, haccepts⟩ := exists_accepts_of_convert ha
  obtain ⟨t, ht, hpermutes⟩ := Layout.exists_resolve_of_perm h hs
  exact convert_of_accepts ht (hpermutes.accepts haccepts)

theorem renumbers_of_perm (h : refs.Perm others)
    (ha : convert wb (.listing overview refs) = .ok a)
    (hb : convert wb (.listing overview others) = .ok b) : a.Renumbers b := by
  obtain ⟨s, catalog, hs, hfrom⟩ := exists_madeFrom_of_convert ha
  obtain ⟨t, other, ht, hother⟩ := exists_madeFrom_of_convert hb
  obtain ⟨found, hfound, hpermutes⟩ := Layout.exists_resolve_of_perm h hs
  obtain rfl : found = t := Except.ok.inj (hfound.symm.trans ht)
  exact hfrom.renumbers hother hpermutes

theorem convert_eq_error_of_perm (h : refs.Perm others) {error : ConvertError}
    (herror : error.InOverview) (hconvert : convert wb (.listing overview refs) = .error error) :
    convert wb (.listing overview others) = .error error := by
  cases firstViolation_of_convert hconvert with
  | layout hlayout => cases herror
  | selection hs hviolates =>
    obtain ⟨t, ht, hpermutes⟩ := Layout.exists_resolve_of_perm h hs
    exact convert_of_violates ht (hpermutes.violates herror hviolates)

/-- Where repeated identifiers are rejected, another order of the category sheets changes neither
whether a workbook is converted, nor anything but numbers if it is, nor the error if it fails in
the overview. -/
theorem convert_scanOrder (wb : Workbook) (overview : SheetRef) {refs others : List SheetRef}
    (h : refs.Perm others) :
    ((∃ a, convert wb (.listing overview refs) = .ok a) ↔
      ∃ b, convert wb (.listing overview others) = .ok b) ∧
    (∀ a b, convert wb (.listing overview refs) = .ok a →
      convert wb (.listing overview others) = .ok b → a.Renumbers b) ∧
    ∀ error : ConvertError, error.InOverview →
      (convert wb (.listing overview refs) = .error error ↔
        convert wb (.listing overview others) = .error error) := by
  refine ⟨⟨?_, ?_⟩, ?_, fun error herror => ⟨?_, ?_⟩⟩
  · exact exists_convert_of_perm h
  · exact exists_convert_of_perm h.symm
  · intro a b ha hb
    exact renumbers_of_perm h ha hb
  · exact convert_eq_error_of_perm h herror
  · exact convert_eq_error_of_perm h.symm herror

/-- A workbook whose two category sheets define a step each, both with parameters. -/
def doors : Workbook where
  sheets := [
    { name := "Cases", rows := [[], [.empty, .text "C", .empty, .text "open,shut"]] },
    { name := "First", rows := [[], [.text "open", .empty, .empty, .empty, .text "wide"]] },
    { name := "Second", rows := [[], [.text "shut", .empty, .empty, .empty, .text "now,quietly"],
      [.empty, .text "a remark"]] }]

/-- Listed the other way round, the sheets give the steps other numbers. -/
theorem doors_scanOrder :
    ∃ a b, convert doors (.listing (.index 0) [.index 1, .index 2]) = .ok a ∧
      convert doors (.listing (.index 0) [.index 2, .index 1]) = .ok b ∧
      a.dataset ≠ b.dataset ∧ a.Renumbers b := by
  have hperm : [SheetRef.index 1, .index 2].Perm [.index 2, .index 1] := by decide
  obtain ⟨hiff, hrenumbers, -⟩ := convert_scanOrder doors (.index 0) hperm
  obtain ⟨a, ha⟩ : ∃ a, convert doors (.listing (.index 0) [.index 1, .index 2]) = .ok a :=
    Traversal.exists_eq_ok_of_isOk (by decide +kernel)
  obtain ⟨b, hb⟩ := hiff.mp ⟨a, ha⟩
  have hdiffer : (convert doors (.listing (.index 0) [.index 1, .index 2])).map Conversion.dataset
      ≠ (convert doors (.listing (.index 0) [.index 2, .index 1])).map Conversion.dataset := by
    decide +kernel
  refine ⟨a, b, ha, hb, ?_, hrenumbers a b ha hb⟩
  rw [ha, hb] at hdiffer
  exact fun hsame => hdiffer (congrArg Except.ok hsame)

end Conversion

end Conformance
