import Conformance.Proofs.Catalog.Growth
import Conformance.Proofs.Conversion.Normalisation
import Conformance.Proofs.Conversion.Report

set_option autoImplicit false

/-!
# Workbooks that grow

Rows are added to a workbook after those that were there: cases at the end of the overview, steps
after the last row that is scanned.  Then every row of the four tables stays where it was, with its
number, and the rows that are added have higher numbers (`convert_grows`).  This holds unless the
last definition of an identifier takes the place of the others.
-/

namespace Conformance

/-- A test case, wherever it is described. -/
def TestCase.unplaced (testCase : TestCase) : TestCase := { testCase with location := default }

/-- The rows of one selection are the first rows of another, which may stand in other places. -/
structure Selection.GrowsInto (s t : Selection) : Prop where
  overview : s.overviewRows.map SheetRow.cells <+: t.overviewRows.map SheetRow.cells
  categories : s.categoryRows.map SheetRow.cells <+: t.categoryRows.map SheetRow.cells

namespace Dataset

/-- The rows of a table stay, and those that are added have numbers not given before. -/
def Extends {ρ : Type} (number : ρ → Int) (rows more : List ρ) : Prop :=
  ∃ added, more = rows ++ added ∧ ∀ row ∈ rows, ∀ new ∈ added, number row < number new

/-- Each of the four tables extends the one before. -/
structure GrowsInto (d e : Dataset) : Prop where
  steps : Extends StepRow.id d.steps e.steps
  parameters : Extends ParameterRow.id d.parameters e.parameters
  cases : Extends CaseRow.id d.cases e.cases
  links : Extends LinkRow.id d.links e.links

/-! ## Tables -/

/-- A table whose rows are numbered from one grows with what it lists. -/
theorem extends_numbered {α ρ : Type} {as bs : List α} (h : as <+: bs) {row : α × Nat → ρ}
    {number : ρ → Int} (hnumber : ∀ entry, number (row entry) = entry.2) :
    Extends number ((numbered as).map row) ((numbered bs).map row) := by
  obtain ⟨more, rfl⟩ := h
  refine ⟨(more.zipIdx (1 + as.length)).map row, ?_, ?_⟩
  · rw [numbered, List.zipIdx_append, List.map_append, numbered]
  · intro r hr new hnew
    obtain ⟨entry, hentry, rfl⟩ := List.mem_map.mp hr
    obtain ⟨later, hlater, rfl⟩ := List.mem_map.mp hnew
    have hlt := List.snd_lt_add_of_mem_zipIdx hentry
    have hle := List.le_snd_of_mem_zipIdx hlater
    rw [hnumber, hnumber]
    omega

variable {catalog other : Catalog} {testCases more : List TestCase}

/-- Where a step is defined is not in the tables. -/
theorem stepRows_eq_unplaced (catalog : Catalog) :
    stepRows catalog = (numbered (catalog.steps.map TestStep.unplaced)).map stepRow := by
  rw [stepRows_eq_map, numbered, numbered, List.zipIdx_map, List.map_map]
  rfl

theorem parameterRows_eq_unplaced (catalog : Catalog) :
    parameterRows catalog = (numbered (entries TestStep.parameters
      (catalog.steps.map TestStep.unplaced) 1)).map parameterRow := by
  rw [parameterRows_eq_map, entries_map_owners]
  rfl

/-- Where a test case is described is not in the tables. -/
theorem caseRows_eq_unplaced (testCases : List TestCase) :
    caseRows testCases = (numbered (testCases.map TestCase.unplaced)).map caseRow := by
  rw [caseRows_eq_map, numbered, numbered, List.zipIdx_map, List.map_map]
  rfl

/-- Links depend on the numbers of the references alone. -/
theorem resolvedLinks_congr
    (h : ∀ testCase ∈ testCases, ∀ reference ∈ testCase.steps,
      catalog.number reference = other.number reference) :
    resolvedLinks catalog testCases = resolvedLinks other testCases := by
  rw [resolvedLinks_eq_map_references, resolvedLinks_eq_map_references]
  apply List.map_congr_left
  intro entry hentry
  obtain ⟨testCase, hcase, hreference⟩ :=
    exists_of_mem_entries (List.fst_mem_of_mem_zipIdx hentry)
  rw [h testCase hcase _ hreference]

theorem resolvedLinks_eq_unplaced (catalog : Catalog) (testCases : List TestCase) :
    resolvedLinks catalog testCases = resolvedLinks catalog (testCases.map TestCase.unplaced) := by
  rw [resolvedLinks_eq_map_references, resolvedLinks_eq_map_references, entries_map_owners]
  rfl

/-- The tables grow with the steps of the catalog and with the test cases. -/
theorem tables_growsInto
    (hsteps : catalog.steps.map TestStep.unplaced <+: other.steps.map TestStep.unplaced)
    (hcases : testCases.map TestCase.unplaced <+: more.map TestCase.unplaced)
    (hnumbers : ∀ testCase ∈ testCases, ∀ reference ∈ testCase.steps,
      catalog.number reference = other.number reference) :
    (tables catalog testCases).GrowsInto (tables other more) where
  steps := by
    simp only [tables]
    rw [stepRows_eq_unplaced, stepRows_eq_unplaced]
    exact extends_numbered hsteps fun _ => rfl
  parameters := by
    simp only [tables]
    rw [parameterRows_eq_unplaced, parameterRows_eq_unplaced]
    exact extends_numbered (entries_isPrefix hsteps _ 1) fun _ => rfl
  cases := by
    simp only [tables]
    rw [caseRows_eq_unplaced, caseRows_eq_unplaced]
    exact extends_numbered hcases fun _ => rfl
  links := by
    simp only [tables]
    rw [resolvedLinks_congr hnumbers, resolvedLinks_eq_unplaced, resolvedLinks_eq_unplaced other more,
      resolvedLinks_eq_map_references, resolvedLinks_eq_map_references]
    exact extends_numbered (entries_isPrefix hcases _ 1) fun _ => rfl

end Dataset

/-! ## Conversions -/

/-- What the rows of an overview describe, wherever they stand, is read off their cells. -/
theorem map_unplaced_testCase (rows : List SheetRow) :
    ((describingRows rows).map SheetRow.testCase).map TestCase.unplaced =
      (rows.map SheetRow.cells).filterMap fun cells => SheetRow.testCase? ⟨default, cells⟩ := by
  rw [← filterMap_testCase?, List.map_filterMap, List.filterMap_map]
  apply List.filterMap_congr
  intro row _
  have hsame : SheetRow.caseId ⟨default, row.cells⟩ = row.caseId := rfl
  rw [Function.comp_apply, SheetRow.testCase?, SheetRow.testCase?, hsame]
  by_cases hid : row.caseId = ""
  · rw [if_pos hid, if_pos hid, Option.map_none]
  · rw [if_neg hid, if_neg hid, Option.map_some]
    simp only [TestCase.unplaced, SheetRow.testCase, SheetRow.caseId, SheetRow.container,
      SheetRow.references, SheetRow.referenceText]

namespace Conversion

/-- Conversions of selections of which one grows into the other. -/
theorem MadeFrom.growsInto {a b : Conversion} {s t : Selection} {policy : DuplicatePolicy}
    {catalog other : Catalog} (ha : a.MadeFrom s policy catalog) (hb : b.MadeFrom t policy other)
    (hkeep : policy ≠ .lastWins) (h : s.GrowsInto t) : a.dataset.GrowsInto b.dataset := by
  have hdefinitions : (s.definitions.map SheetRow.step).map TestStep.unplaced <+:
      (t.definitions.map SheetRow.step).map TestStep.unplaced := by
    rw [Selection.definitions, Selection.definitions, map_unplaced_step, map_unplaced_step]
    exact h.categories.filterMap _
  have hcases : s.testCases.map TestCase.unplaced <+: t.testCases.map TestCase.unplaced := by
    rw [Selection.testCases, Selection.testCases, map_unplaced_testCase, map_unplaced_testCase]
    exact h.overview.filterMap _
  have hids : catalog.ids <+: other.ids := ha.holds.ids_isPrefix hb.holds hdefinitions
  rw [ha.dataset, hb.dataset]
  refine Dataset.tables_growsInto (ha.holds.steps_isPrefix hkeep hb.holds hdefinitions) hcases ?_
  intro testCase hcase reference hreference
  exact Catalog.number_of_isPrefix hids (ha.references_mem testCase hcase reference hreference)

/-- Unless the last definition of an identifier takes the place of the others, the tables of a
workbook that grows at its ends keep their rows, and new rows get new numbers. -/
theorem convert_grows {wb larger : Workbook} {options others : Options} {a b : Conversion}
    {s t : Selection} (hpolicy : options.onDuplicate = others.onDuplicate)
    (hkeep : options.onDuplicate ≠ .lastWins)
    (ha : convert wb options = .ok a) (hb : convert larger others = .ok b)
    (hs : options.layout.resolve wb = .ok s) (ht : others.layout.resolve larger = .ok t)
    (h : s.GrowsInto t) : a.dataset.GrowsInto b.dataset := by
  obtain ⟨selection, catalog, hselection, hfrom⟩ := exists_madeFrom_of_convert ha
  obtain ⟨found, other, hfound, hother⟩ := exists_madeFrom_of_convert hb
  obtain rfl : selection = s := Except.ok.inj (hselection.symm.trans hs)
  obtain rfl : found = t := Except.ok.inj (hfound.symm.trans ht)
  rw [← hpolicy] at hother
  exact hfrom.growsInto hother hkeep h

/-- A workbook with one step and one case. -/
def seed : Workbook where
  sheets := [
    { name := "Notes" },
    { name := "Cases", rows := [[], [.empty, .text "C", .empty, .text "S"]] },
    { name := "Steps", rows := [[], [.text "S", .text "Door", .text "open", .empty, .text "wide"]] }]

/-- The workbook with one more case, the step defined once more, and a further sheet of steps. -/
def seedling : Workbook where
  sheets := [
    { name := "Notes" },
    { name := "Cases", rows := [[], [.empty, .text "C", .empty, .text "S"],
      [.empty, .text "D", .empty, .text "T,S"]] },
    { name := "Steps", rows := [[], [.text "S", .text "Door", .text "open", .empty, .text "wide"],
      [.text "S", .text "Door", .text "shut"]] },
    { name := "More", rows := [[], [.text "T", .empty, .empty, .empty, .text "now,quietly"]] }]

theorem seed_grows :
    ∃ a b, convert seed { onDuplicate := .firstWins } = .ok a ∧
      convert seedling { onDuplicate := .firstWins } = .ok b ∧
      a.dataset.GrowsInto b.dataset := by
  obtain ⟨s, hs⟩ : ∃ s, Layout.resolve { } seed = .ok s := ⟨_, rfl⟩
  obtain ⟨t, ht⟩ : ∃ t, Layout.resolve { } seedling = .ok t := ⟨_, rfl⟩
  have hgrows : s.GrowsInto t := by
    cases hs
    cases ht
    exact ⟨by decide +kernel, by decide +kernel⟩
  obtain ⟨a, ha⟩ : ∃ a, convert seed { onDuplicate := .firstWins } = .ok a :=
    Traversal.exists_eq_ok_of_isOk (by decide +kernel)
  obtain ⟨b, hb⟩ : ∃ b, convert seedling { onDuplicate := .firstWins } = .ok b :=
    Traversal.exists_eq_ok_of_isOk (by decide +kernel)
  exact ⟨a, b, ha, hb, convert_grows rfl (by decide) ha hb hs ht hgrows⟩

end Conversion

end Conformance
