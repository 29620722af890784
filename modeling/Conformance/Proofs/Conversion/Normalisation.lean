import Conformance.Proofs.Conversion.Acceptance

set_option autoImplicit false

/-!
# Nothing is lost in the tables

What the cells of a workbook say can be read back from the tables of its conversion.  Each row of
the overview that describes a test case has its row in the case table, and the links found under
that row's number spell the reference cell.  Each identifier that the category sheets define has
its row in the step table, which agrees with the defining row that the policy keeps, and the
parameters found under its number spell the parameter cell.
-/

namespace Conformance

namespace Dataset

/-- A row of the case table, with its links, says what a row of the overview says. -/
structure CaseOf (d : Dataset) (row : SheetRow) (testCase : CaseRow) : Prop where
  identifier : testCase.identifier = row.caseId
  description : testCase.description = row.cells.field TestCase.descriptionColumn
  container : testCase.container = if row.container = "" then none else some row.container
  /-- The links are numbered by their position. -/
  orders : (d.linksOf testCase).map LinkRow.order = List.range row.references.length
  /-- Each link leads to one step, and the identifiers of these steps are the references. -/
  references : ((d.linksOf testCase).map fun link => d.identifiersAt link.stepId) =
    row.references.map fun reference => [reference]

/-- A row of the step table, with its parameters, says what a row of a category sheet says. -/
structure StepOf (d : Dataset) (row : SheetRow) (step : StepRow) : Prop where
  identifier : step.identifier = row.stepId
  className : step.className = row.cells.field TestStep.classColumn
  method : step.method = row.cells.field TestStep.methodColumn
  description : step.description = row.cells.field TestStep.descriptionColumn
  parameterCount : step.parameterCount = row.parameters.length
  /-- The parameters are numbered by their position. -/
  orders : (d.parametersOf step).map ParameterRow.order = List.range step.parameterCount
  values : (d.parametersOf step).map ParameterRow.value = row.parameters

/-- The tables say what the selected sheets say. -/
structure Normalises (d : Dataset) (selection : Selection) (policy : DuplicatePolicy) : Prop where
  /-- The test cases are those of the overview, in order. -/
  cases : List.Forall₂ d.CaseOf (describingRows selection.overviewRows) d.cases
  /-- The steps are those of the category sheets, in the order in which they were first seen. -/
  identifiers : d.steps.map StepRow.identifier = selection.stepIds.eraseDups
  /-- Each step is the one that the policy keeps. -/
  steps : ∀ step ∈ d.steps, ∃ row,
    policy.keeps (selection.definitions.filter fun row => row.stepId = step.identifier) = some row ∧
      d.StepOf row step

variable {d : Dataset} {catalog : Catalog} {testCases : List TestCase} {γ : Type}

/-! ## Steps -/

/-- The row of a numbered step. -/
def stepRow (entry : TestStep × Nat) : StepRow where
  id := entry.2
  identifier := entry.1.id
  className := entry.1.className
  method := entry.1.method
  description := entry.1.description
  parameterCount := entry.1.parameters.length

theorem stepRows_eq_map (catalog : Catalog) :
    stepRows catalog = (numbered catalog.steps).map stepRow := rfl

theorem exists_of_mem_stepRows {row : StepRow} (h : row ∈ stepRows catalog) :
    ∃ i step, catalog.steps[i]? = some step ∧ row = stepRow (step, 1 + i) := by
  rw [stepRows_eq_map] at h
  obtain ⟨entry, hentry, rfl⟩ := List.mem_map.mp h
  obtain ⟨i, hget, hnumber⟩ := exists_of_mem_numbered hentry
  exact ⟨i, entry.1, hget, congrArg stepRow hnumber⟩

theorem map_identifier_stepRows (catalog : Catalog) :
    (stepRows catalog).map StepRow.identifier = catalog.ids := by
  have hidentifier : StepRow.identifier ∘ stepRow = TestStep.id ∘ Prod.fst := rfl
  rw [stepRows_eq_map, numbered, List.map_map, hidentifier, ← List.map_map, List.zipIdx_map_fst,
    Catalog.ids]

/-- Under the number of an identifier stands the step of that identifier. -/
theorem identifiersAt_number (hsteps : d.steps = stepRows catalog) {id : String}
    (h : id ∈ catalog.ids) : d.identifiersAt (catalog.number id) = [id] := by
  obtain ⟨i, step, hstep, rfl, hnumber, -⟩ := Catalog.exists_number h
  have hselect : (fun row : StepRow => decide (row.id = ((1 + i : Nat) : Int))) ∘ stepRow =
      fun entry : TestStep × Nat => decide (entry.2 = 1 + i) := by
    funext entry
    simp only [Function.comp_apply, stepRow, Int.natCast_inj]
  rw [identifiersAt, hsteps, stepRows_eq_map, hnumber, List.filter_map, hselect, numbered,
    filter_numbered_eq_singleton hstep]
  rfl

/-- The row of a numbered parameter. -/
def parameterRow (entry : (Nat × String × Nat) × Nat) : ParameterRow where
  id := entry.2
  stepId := entry.1.1
  value := entry.1.2.1
  order := entry.1.2.2

theorem parameterRows_eq_map (catalog : Catalog) :
    parameterRows catalog =
      (numbered (entries TestStep.parameters catalog.steps 1)).map parameterRow := by
  have hentries : ((numbered catalog.steps).flatMap fun owner =>
        owner.1.parameters.zipIdx.map fun item => ((owner.2 : Int), item)) =
      (entries TestStep.parameters catalog.steps 1).map fun entry => ((entry.1 : Int), entry.2) := by
    rw [entries, List.map_flatMap]
    simp only [List.map_map]
    rfl
  refine (congrArg (fun owned : List (Int × String × Nat) => (numbered owned).map fun entry =>
    ({ id := entry.2, stepId := entry.1.1, value := entry.1.2.1, order := entry.1.2.2 } :
      ParameterRow)) hentries).trans ?_
  rw [numbered, List.zipIdx_map, List.map_map]
  rfl

/-- The parameters under a number are those of the step with this number. -/
theorem map_parametersOf (hparameters : d.parameters = parameterRows catalog)
    (content : ParameterRow → γ) (g : String × Nat → γ)
    (hcontent : ∀ entry, content (parameterRow entry) = g entry.1.2)
    {i : Nat} {step : TestStep} (hstep : catalog.steps[i]? = some step) :
    (d.parametersOf (stepRow (step, 1 + i))).map content = step.parameters.zipIdx.map g := by
  rw [parametersOf, hparameters, parameterRows_eq_map]
  exact map_filter_rows hstep (fun _ => rfl) hcontent

theorem stepOf (hparameters : d.parameters = parameterRows catalog) {i : Nat} {row : SheetRow}
    (hstep : catalog.steps[i]? = some row.step) : d.StepOf row (stepRow (row.step, 1 + i)) where
  identifier := by simp only [stepRow, SheetRow.step]
  className := by simp only [stepRow, SheetRow.step]
  method := by simp only [stepRow, SheetRow.step]
  description := by simp only [stepRow, SheetRow.step]
  parameterCount := by simp only [stepRow, SheetRow.step]
  orders := by
    have hmap := map_parametersOf hparameters ParameterRow.order Prod.snd (fun _ => rfl) hstep
    rw [hmap, List.zipIdx_map_snd, ← List.range_eq_range']
    simp only [stepRow]
  values := by
    have hmap := map_parametersOf hparameters ParameterRow.value Prod.fst (fun _ => rfl) hstep
    rw [hmap, List.zipIdx_map_fst]
    simp only [SheetRow.step]

/-! ## Test cases -/

/-- The row of a numbered test case. -/
def caseRow (entry : TestCase × Nat) : CaseRow where
  id := entry.2
  identifier := entry.1.id
  description := entry.1.description
  container := if entry.1.container = "" then none else some entry.1.container

theorem caseRows_eq_map (testCases : List TestCase) :
    caseRows testCases = (numbered testCases).map caseRow := rfl

theorem getElem?_caseRows (testCases : List TestCase) (i : Nat) :
    (caseRows testCases)[i]? = testCases[i]?.map fun testCase => caseRow (testCase, 1 + i) := by
  rw [caseRows_eq_map, List.getElem?_map, numbered, List.getElem?_zipIdx, Option.map_map]
  rfl

/-- The row of a numbered link. -/
def linkRow (entry : (Nat × Nat × Nat) × Nat) : LinkRow where
  id := entry.2
  caseId := entry.1.1
  stepId := entry.1.2.1
  order := entry.1.2.2

theorem resolvedLinks_eq_map (catalog : Catalog) (testCases : List TestCase) :
    resolvedLinks catalog testCases =
      (numbered (entries (fun testCase => testCase.steps.map catalog.number) testCases 1)).map
        linkRow := rfl

/-- A link leads to the number of the reference it was made for. -/
theorem resolvedLinks_eq_map_references (catalog : Catalog) (testCases : List TestCase) :
    resolvedLinks catalog testCases = (numbered (entries TestCase.steps testCases 1)).map
      fun entry => linkRow ((entry.1.1, catalog.number entry.1.2.1, entry.1.2.2), entry.2) := by
  rw [resolvedLinks_eq_map, entries_map, numbered, List.zipIdx_map, List.map_map]
  rfl

/-- The links under a number are those of the test case with this number. -/
theorem map_linksOf (hlinks : d.links = resolvedLinks catalog testCases)
    (content : LinkRow → γ) (g : Nat × Nat → γ)
    (hcontent : ∀ entry, content (linkRow entry) = g entry.1.2)
    {i : Nat} {testCase : TestCase} (hcase : testCases[i]? = some testCase) :
    (d.linksOf (caseRow (testCase, 1 + i))).map content =
      (testCase.steps.map catalog.number).zipIdx.map g := by
  rw [linksOf, hlinks, resolvedLinks_eq_map]
  exact map_filter_rows hcase (fun _ => rfl) hcontent

theorem caseOf (hsteps : d.steps = stepRows catalog)
    (hlinks : d.links = resolvedLinks catalog testCases) {i : Nat} {row : SheetRow}
    (hcase : testCases[i]? = some row.testCase)
    (hknown : ∀ reference ∈ row.references, reference ∈ catalog.ids) :
    d.CaseOf row (caseRow (row.testCase, 1 + i)) where
  identifier := by simp only [caseRow, SheetRow.testCase]
  description := by simp only [caseRow, SheetRow.testCase]
  container := by
    rw [show row.container = row.testCase.container by simp only [SheetRow.testCase]]
    rfl
  orders := by
    have hmap := map_linksOf hlinks LinkRow.order Prod.snd (fun _ => rfl) hcase
    rw [hmap, List.zipIdx_map_snd, ← List.range_eq_range', List.length_map, SheetRow.steps_testCase]
  references := by
    have hmap := map_linksOf hlinks (fun link => d.identifiersAt link.stepId)
      (fun entry => d.identifiersAt entry.1) (fun _ => rfl) hcase
    have hfst : (fun entry : Nat × Nat => d.identifiersAt entry.1) =
        (fun number : Nat => d.identifiersAt number) ∘ Prod.fst := rfl
    rw [hmap, hfst, ← List.map_map, List.zipIdx_map_fst, List.map_map, SheetRow.steps_testCase]
    apply List.map_congr_left
    intro reference hreference
    exact identifiersAt_number hsteps (hknown reference hreference)

/-- The case table says what the rows that describe a test case say, in order. -/
theorem forall₂_caseOf (hsteps : d.steps = stepRows catalog) {rows : List SheetRow}
    (hcases : d.cases = caseRows (rows.map SheetRow.testCase))
    (hlinks : d.links = resolvedLinks catalog (rows.map SheetRow.testCase))
    (hknown : ∀ row ∈ rows, ∀ reference ∈ row.references, reference ∈ catalog.ids) :
    List.Forall₂ d.CaseOf rows d.cases := by
  rw [List.forall₂_iff_get]
  refine ⟨by simp [hcases], fun i hrow hcase => ?_⟩
  have hrow? : (rows.map SheetRow.testCase)[i]? = some rows[i].testCase := by simp [hrow]
  have hget : d.cases[i]? = some (caseRow (rows[i].testCase, 1 + i)) := by
    rw [hcases, getElem?_caseRows, hrow?, Option.map_some]
  obtain ⟨_, hget⟩ := List.getElem?_eq_some_iff.mp hget
  rw [List.get_eq_getElem, List.get_eq_getElem, hget]
  exact caseOf hsteps hlinks hrow? (hknown _ (List.getElem_mem hrow))

end Dataset

/-! ## Conversions -/

/-- The defining row that the policy keeps, found from the step in the catalog. -/
theorem Catalog.Holds.exists_kept {policy : DuplicatePolicy} {rows : List SheetRow}
    {catalog : Catalog} (h : catalog.Holds policy (rows.map SheetRow.step)) {i : Nat}
    {step : TestStep} (hstep : catalog.steps[i]? = some step) :
    ∃ row, policy.keeps (rows.filter fun row => row.stepId = step.id) = some row ∧
      row.step = step := by
  have hget := catalog.get?_of_getElem? hstep
  rw [h.get?, List.filter_map, DuplicatePolicy.keeps_map] at hget
  obtain ⟨row, hrow, hstep⟩ := Option.map_eq_some_iff.mp hget
  exact ⟨row, hrow, hstep⟩

namespace Conversion

theorem exists_selection_of_convert {wb : Workbook} {options : Options} {conversion : Conversion}
    (h : convert wb options = .ok conversion) :
    ∃ selection, options.layout.resolve wb = .ok selection ∧
      selection.Accepts options.onDuplicate ∧
      (ofSelection selection options.onDuplicate).outcome = .ok conversion.dataset := by
  obtain ⟨selection, hlayout, haccepts⟩ := exists_accepts_of_convert h
  refine ⟨selection, hlayout, haccepts, ?_⟩
  unfold convert at h
  rw [hlayout] at h
  simp only at h
  split at h
  · cases h
  · next dataset hdataset =>
    cases h
    exact hdataset

/-- The tables of a conversion say what the selected sheets say. -/
theorem convert_normalises {wb : Workbook} {options : Options} {conversion : Conversion}
    (h : convert wb options = .ok conversion) :
    ∃ selection, options.layout.resolve wb = .ok selection ∧
      conversion.dataset.Normalises selection options.onDuplicate := by
  obtain ⟨selection, hlayout, haccepts, houtcome⟩ := exists_selection_of_convert h
  obtain ⟨catalog, hholds, htables⟩ := outcome_of_accepts haccepts
  rw [houtcome] at htables
  injection htables with hdataset
  refine ⟨selection, hlayout, ?_, ?_, ?_⟩
  · refine Dataset.forall₂_caseOf (by rw [hdataset]) (by rw [hdataset]; rfl)
      (by rw [hdataset]; rfl) fun row hrow reference hreference => ?_
    obtain ⟨hmem, hid⟩ := mem_describingRows.mp hrow
    have hfits := haccepts.fits row hmem
    rw [SheetRow.Fits, if_neg hid] at hfits
    rw [mem_ids_iff hholds]
    exact (hfits reference hreference).2
  · rw [hdataset, Dataset.map_identifier_stepRows, hholds.ids, List.map_map,
      SheetRow.id_comp_step, Selection.stepIds]
  · intro step hstep
    rw [hdataset] at hstep
    obtain ⟨i, held, hheld, rfl⟩ := Dataset.exists_of_mem_stepRows hstep
    obtain ⟨row, hkeeps, rfl⟩ := hholds.exists_kept hheld
    refine ⟨row, hkeeps, Dataset.stepOf ?_ hheld⟩
    rw [hdataset]

/-- A workbook that defines a step twice, with different parameters, and refers to it twice. -/
def redefinition : Workbook where
  sheets := [
    { name := "Notes" },
    { name := "Cases", rows := [[], [.empty, .text "C", .empty, .text "S, S"]] },
    { name := "Steps", rows := [[],
      [.text "S", .text "Door", .text "open", .empty, .text "wide"],
      [.text "S", .text "Door", .text "shut", .empty, .text "now,quietly"]] }]

theorem redefinition_normalises :
    ∃ conversion selection, convert redefinition { onDuplicate := .lastWins } = .ok conversion ∧
      Layout.resolve { } redefinition = .ok selection ∧
      conversion.dataset.Normalises selection .lastWins := by
  cases hconvert : convert redefinition { onDuplicate := .lastWins } with
  | error error =>
    have hok : (convert redefinition { onDuplicate := .lastWins }).isOk = true := by decide +kernel
    rw [hconvert] at hok
    cases hok
  | ok conversion =>
    obtain ⟨selection, hlayout, hnormalises⟩ := convert_normalises hconvert
    exact ⟨conversion, selection, rfl, hlayout, hnormalises⟩

end Conversion

end Conformance
