import Conformance.Proofs.Conversion.Normalisation

set_option autoImplicit false

/-!
# Keys

Whatever test cases are numbered against a catalog, not only those that an overview was read as,
either the first reference that the catalog does not hold is reported, or the four tables fit
together (`Dataset.Keyed`): their rows are numbered without gaps, every number that points to
another table leads to a row there, and the rows of one owner stand together, at the positions
0, 1, 2, ….

Parameters and links are entries of owners, so what is said about both tables follows from the
order in which entries stand (`pairwise_entries`) and from where they come from
(`exists_owner_of_mem_entries`).
-/

namespace Conformance

namespace Dataset

/-- The numbers of the rows of a table: one, two, and so on. -/
def numbers (count : Nat) : List Int := (List.range' 1 count).map Nat.cast

/-- The rows of the four tables are known by their numbers, and point to each other by them. -/
structure Keyed (d : Dataset) : Prop where
  stepIds : d.steps.map StepRow.id = numbers d.steps.length
  parameterIds : d.parameters.map ParameterRow.id = numbers d.parameters.length
  caseIds : d.cases.map CaseRow.id = numbers d.cases.length
  linkIds : d.links.map LinkRow.id = numbers d.links.length
  identifiers : (d.steps.map StepRow.identifier).Nodup
  /-- Every pointer leads to a row. -/
  parameterStep : ∀ parameter ∈ d.parameters, ∃ step ∈ d.steps, step.id = parameter.stepId
  linkCase : ∀ link ∈ d.links, ∃ testCase ∈ d.cases, testCase.id = link.caseId
  linkStep : ∀ link ∈ d.links, ∃ step ∈ d.steps, step.id = link.stepId
  /-- The rows of one owner stand together, the owners in the order of their numbers. -/
  parametersGrouped : (d.parameters.map ParameterRow.stepId).Pairwise (· ≤ ·)
  linksGrouped : (d.links.map LinkRow.caseId).Pairwise (· ≤ ·)
  /-- Under each owner the positions run from zero without gaps. -/
  parameterOrders : ∀ step ∈ d.steps,
    (d.parametersOf step).map ParameterRow.order = List.range (d.parametersOf step).length
  linkOrders : ∀ testCase ∈ d.cases,
    (d.linksOf testCase).map LinkRow.order = List.range (d.linksOf testCase).length
  /-- Owner and position identify a row. -/
  parametersDistinct :
    (d.parameters.map fun parameter => (parameter.stepId, parameter.order)).Nodup
  linksDistinct : (d.links.map fun link => (link.caseId, link.order)).Nodup
  parameterCount : ∀ step ∈ d.steps, step.parameterCount = (d.parametersOf step).length

/-- The error for the first reference, in the order of the test cases and of their references, that
the catalog does not hold. -/
inductive FirstUnknown (catalog : Catalog) (testCases : List TestCase) : ConvertError → Prop where
  | intro {before after : List TestCase} {testCase : TestCase} {known rest : List String}
      {reference : String} (hcases : testCases = before ++ testCase :: after)
      (hbefore : ∀ other ∈ before, ∀ earlier ∈ other.steps, earlier ∈ catalog.ids)
      (hsteps : testCase.steps = known ++ reference :: rest)
      (hknown : ∀ earlier ∈ known, earlier ∈ catalog.ids) (hunknown : reference ∉ catalog.ids) :
      FirstUnknown catalog testCases
        (.unknownStepReference testCase.id reference testCase.location)

variable {α β γ ρ : Type} {catalog : Catalog} {testCases : List TestCase}

/-! ## Tables of numbered rows -/

theorem length_numbered (as : List α) : (numbered as).length = as.length := by simp [numbered]

/-- Rows that carry the numbers of what they were made of. -/
theorem map_id_rows (row : α × Nat → ρ) (id : ρ → Int) (h : ∀ entry, id (row entry) = entry.2)
    (as : List α) :
    ((numbered as).map row).map id = numbers ((numbered as).map row).length := by
  have hid : id ∘ row = Nat.cast ∘ Prod.snd := funext h
  rw [List.map_map, hid, ← List.map_map, List.length_map, length_numbered, numbers, numbered,
    List.zipIdx_map_snd]

/-- What is said about rows without regard to their own numbers. -/
theorem map_content_rows {row : α × Nat → ρ} {content : ρ → γ} (g : α → γ)
    (h : ∀ entry, content (row entry) = g entry.1) (as : List α) :
    ((numbered as).map row).map content = as.map g := by
  rw [List.map_map]
  exact map_numbered fun i a _ => h (a, 1 + i)

/-- There is a row for each place in the list. -/
theorem exists_row (row : α × Nat → ρ) (id : ρ → Int) (h : ∀ entry, id (row entry) = entry.2)
    {as : List α} {i : Nat} {a : α} (ha : as[i]? = some a) :
    ∃ r ∈ (numbered as).map row, id r = ((1 + i : Nat) : Int) := by
  refine ⟨row (a, 1 + i), List.mem_map_of_mem ?_, h _⟩
  rw [numbered, List.mk_mem_zipIdx_iff_le_and_getElem?_sub, Nat.add_sub_cancel_left]
  exact ⟨Nat.le_add_right 1 i, ha⟩

/-! ## Tables of entries -/

section Entries

variable {items : α → List β} {owners : List α} (row : (Nat × β × Nat) × Nat → ρ)
  (owner : ρ → Int) (order : ρ → Nat)

/-- Entries stand with their owners, in the order of the owners. -/
theorem pairwise_owner_rows (howner : ∀ entry, owner (row entry) = entry.1.1) :
    (((numbered (entries items owners 1)).map row).map owner).Pairwise (· ≤ ·) := by
  rw [map_content_rows (fun entry => (entry.1 : Int)) howner, List.pairwise_map]
  refine (pairwise_entries items owners 1).imp fun hbefore => ?_
  rcases hbefore with hlt | ⟨heq, -⟩ <;> omega

/-- No two entries have the same owner and the same position. -/
theorem nodup_rows (howner : ∀ entry, owner (row entry) = entry.1.1)
    (horder : ∀ entry, order (row entry) = entry.1.2.2) :
    (((numbered (entries items owners 1)).map row).map fun r => (owner r, order r)).Nodup := by
  have hkey : ∀ entry, (owner (row entry), order (row entry)) =
      ((entry.1.1 : Int), entry.1.2.2) := fun entry => by rw [howner, horder]
  rw [map_content_rows (fun entry => ((entry.1 : Int), entry.2.2)) hkey, List.nodup_iff_pairwise_ne,
    List.pairwise_map]
  refine (pairwise_entries items owners 1).imp fun hbefore hsame => ?_
  obtain ⟨hnumber, hposition⟩ := Prod.mk.inj hsame
  rcases hbefore with hlt | ⟨-, hlt⟩ <;> omega

/-- The owner of a row is in the table of owners. -/
theorem exists_owner_row {σ : Type} (ownerRow : α × Nat → σ) (id : σ → Int)
    (hid : ∀ entry, id (ownerRow entry) = entry.2) (howner : ∀ entry, owner (row entry) = entry.1.1)
    {r : ρ} (hr : r ∈ (numbered (entries items owners 1)).map row) :
    ∃ o ∈ (numbered owners).map ownerRow, id o = owner r := by
  obtain ⟨entry, hentry, rfl⟩ := List.mem_map.mp hr
  obtain ⟨k, a, ha, hnumber, -⟩ :=
    exists_owner_of_mem_entries (List.fst_mem_of_mem_zipIdx hentry)
  rw [howner, hnumber]
  exact exists_row ownerRow id hid ha

end Entries

/-! ## The four tables -/

/-- A link leads to the step that its reference names. -/
theorem exists_step_of_mem_links
    (h : ∀ testCase ∈ testCases, ∀ reference ∈ testCase.steps, reference ∈ catalog.ids)
    {link : LinkRow} (hlink : link ∈ resolvedLinks catalog testCases) :
    ∃ step ∈ stepRows catalog, step.id = link.stepId := by
  rw [resolvedLinks_eq_map] at hlink
  obtain ⟨entry, hentry, rfl⟩ := List.mem_map.mp hlink
  obtain ⟨testCase, hcase, hnumber⟩ :=
    exists_of_mem_entries (List.fst_mem_of_mem_zipIdx hentry)
  obtain ⟨reference, hreference, hnumber⟩ := List.mem_map.mp hnumber
  obtain ⟨i, step, hstep, -, hplace, -⟩ :=
    Catalog.exists_number (h testCase hcase reference hreference)
  obtain ⟨r, hr, hid⟩ := exists_row stepRow StepRow.id (fun _ => rfl) hstep
  refine ⟨r, hr, ?_⟩
  rw [hid, ← hplace, hnumber]
  rfl

/-- Positions that run from zero without gaps count the rows that have them. -/
theorem length_eq_of_map_eq_range {rows : List ρ} {order : ρ → Nat} {count : Nat}
    (h : rows.map order = List.range count) : rows.length = count := by
  simpa using congrArg List.length h

/-- The parameters of a step have the positions of its parameter list. -/
theorem orders_parametersOf {d : Dataset} (hsteps : d.steps = stepRows catalog)
    (hparameters : d.parameters = parameterRows catalog) {step : StepRow} (hstep : step ∈ d.steps) :
    (d.parametersOf step).map ParameterRow.order = List.range step.parameterCount := by
  rw [hsteps] at hstep
  obtain ⟨i, held, hheld, rfl⟩ := exists_of_mem_stepRows hstep
  rw [map_parametersOf hparameters ParameterRow.order Prod.snd (fun _ => rfl) hheld,
    List.zipIdx_map_snd, ← List.range_eq_range']
  rfl

/-- The links of a test case have the positions of its references. -/
theorem exists_orders_linksOf {d : Dataset} (hcases : d.cases = caseRows testCases)
    (hlinks : d.links = resolvedLinks catalog testCases) {testCase : CaseRow}
    (hcase : testCase ∈ d.cases) :
    ∃ count, (d.linksOf testCase).map LinkRow.order = List.range count := by
  obtain ⟨i, hi⟩ := List.mem_iff_getElem?.mp hcase
  rw [hcases, getElem?_caseRows, Option.map_eq_some_iff] at hi
  obtain ⟨found, hfound, rfl⟩ := hi
  refine ⟨(found.steps.map catalog.number).length, ?_⟩
  rw [map_linksOf hlinks LinkRow.order Prod.snd (fun _ => rfl) hfound, List.zipIdx_map_snd,
    ← List.range_eq_range']

/-- The tables of a catalog and of test cases that refer to it fit together. -/
theorem keyed_tables
    (h : ∀ testCase ∈ testCases, ∀ reference ∈ testCase.steps, reference ∈ catalog.ids) :
    (tables catalog testCases).Keyed := by
  have hparameters : (tables catalog testCases).parameters =
      (numbered (entries TestStep.parameters catalog.steps 1)).map parameterRow :=
    parameterRows_eq_map catalog
  have horders : ∀ step ∈ (tables catalog testCases).steps,
      ((tables catalog testCases).parametersOf step).map ParameterRow.order =
        List.range step.parameterCount := fun step => orders_parametersOf rfl rfl
  constructor
  case stepIds => exact map_id_rows stepRow StepRow.id (fun _ => rfl) catalog.steps
  case parameterIds =>
    rw [hparameters]
    exact map_id_rows parameterRow ParameterRow.id (fun _ => rfl) _
  case caseIds => exact map_id_rows caseRow CaseRow.id (fun _ => rfl) testCases
  case linkIds => exact map_id_rows linkRow LinkRow.id (fun _ => rfl) _
  case identifiers =>
    rw [show (tables catalog testCases).steps = stepRows catalog from rfl,
      map_identifier_stepRows]
    exact catalog.nodup
  case parameterStep =>
    intro parameter hparameter
    rw [hparameters] at hparameter
    exact exists_owner_row parameterRow ParameterRow.stepId stepRow StepRow.id (fun _ => rfl)
      (fun _ => rfl) hparameter
  case linkCase =>
    intro link hlink
    exact exists_owner_row linkRow LinkRow.caseId caseRow CaseRow.id (fun _ => rfl) (fun _ => rfl)
      hlink
  case linkStep => exact fun link hlink => exists_step_of_mem_links h hlink
  case parametersGrouped =>
    rw [hparameters]
    exact pairwise_owner_rows parameterRow ParameterRow.stepId fun _ => rfl
  case linksGrouped => exact pairwise_owner_rows linkRow LinkRow.caseId fun _ => rfl
  case parameterOrders =>
    intro step hstep
    rw [horders step hstep, length_eq_of_map_eq_range (horders step hstep)]
  case linkOrders =>
    intro testCase hcase
    obtain ⟨count, hcount⟩ :
        ∃ count, ((tables catalog testCases).linksOf testCase).map LinkRow.order =
          List.range count := exists_orders_linksOf rfl rfl hcase
    rw [hcount, length_eq_of_map_eq_range hcount]
  case parametersDistinct =>
    rw [hparameters]
    exact nodup_rows parameterRow ParameterRow.stepId ParameterRow.order (fun _ => rfl) fun _ => rfl
  case linksDistinct =>
    exact nodup_rows linkRow LinkRow.caseId LinkRow.order (fun _ => rfl) fun _ => rfl
  case parameterCount =>
    exact fun step hstep => (length_eq_of_map_eq_range (horders step hstep)).symm

/-! ## References that the catalog does not hold -/

theorem position?_eq_none_iff {id : String} : catalog.position? id = none ↔ id ∉ catalog.ids := by
  simp [Catalog.position?, Catalog.ids]

/-- The first unknown reference of a test case decides the error. -/
theorem caseLinks_eq_error {testCase : TestCase} {known rest : List String} {reference : String}
    (hsteps : testCase.steps = known ++ reference :: rest)
    (hknown : ∀ earlier ∈ known, earlier ∈ catalog.ids) (hunknown : reference ∉ catalog.ids) :
    caseLinks catalog testCase =
      .error (.unknownStepReference testCase.id reference testCase.location) := by
  refine Traversal.mapM_eq_error_iff.mpr
    ⟨known.zipIdx, (reference, known.length), rest.zipIdx (known.length + 1), ?_, ?_, ?_⟩
  · rw [hsteps, List.zipIdx_append, List.zipIdx_cons, Nat.zero_add]
  · rintro ⟨earlier, order⟩ hmem
    obtain ⟨i, -, -, -, -, hposition⟩ :=
      Catalog.exists_number (hknown earlier (List.fst_mem_of_mem_zipIdx hmem))
    exact ⟨(i + 1, order), by simp only [stepNumber, hposition]; rfl⟩
  · simp only [stepNumber, position?_eq_none_iff.mpr hunknown]
    rfl

/-- The first unknown reference of all decides the error. -/
theorem assign_eq_error {error : ConvertError} (h : FirstUnknown catalog testCases error) :
    assign catalog testCases = .error error := by
  cases h with
  | @intro before after testCase known rest reference hcases hbefore hsteps hknown hunknown =>
    have hlinks : linkRows catalog testCases =
        .error (.unknownStepReference testCase.id reference testCase.location) := by
      unfold linkRows
      refine (congrArg (· >>= _) (Traversal.mapM_eq_error_iff.mpr
        ⟨numbered before, (testCase, 1 + before.length),
          after.zipIdx (1 + before.length + 1), ?_, ?_, ?_⟩)).trans rfl
      · rw [hcases, numbered, List.zipIdx_append, List.zipIdx_cons, numbered]
      · rintro ⟨other, number⟩ hmem
        have hother := hbefore other (List.fst_mem_of_mem_zipIdx hmem)
        simp only [caseLinks_eq_ok hother]
        exact ⟨_, rfl⟩
      · simp only [caseLinks_eq_error hsteps hknown hunknown]
        rfl
    unfold assign
    rw [hlinks]
    rfl

/-- A reference that the catalog does not hold is preceded by none, or by another one. -/
theorem exists_firstUnknown
    (h : ¬ ∀ testCase ∈ testCases, ∀ reference ∈ testCase.steps, reference ∈ catalog.ids) :
    ∃ error, FirstUnknown catalog testCases error := by
  obtain ⟨before, testCase, after, hcases, hbefore, hcase⟩ := FirstSeen.exists_first_not h
  obtain ⟨known, reference, rest, hsteps, hknown, hunknown⟩ := FirstSeen.exists_first_not hcase
  exact ⟨_, .intro hcases hbefore hsteps hknown hunknown⟩

/-- Numbering fails exactly when a test case names a step that the catalog does not hold, and then
with the first such reference; otherwise the four tables fit together, with a row for each test case
and for each of its references. -/
theorem assign_keyed (catalog : Catalog) (testCases : List TestCase) :
    ((∃ error, assign catalog testCases = .error error) ↔
      ∃ testCase ∈ testCases, ∃ reference ∈ testCase.steps, reference ∉ catalog.ids) ∧
    match assign catalog testCases with
    | .error error => FirstUnknown catalog testCases error
    | .ok d => d.Keyed ∧ d.steps.length = catalog.size ∧ d.cases.length = testCases.length ∧
        d.links.length = (testCases.flatMap TestCase.steps).length := by
  by_cases h : ∀ testCase ∈ testCases, ∀ reference ∈ testCase.steps, reference ∈ catalog.ids
  · have hassign : assign catalog testCases = .ok (tables catalog testCases) := assign_eq_ok h
    rw [hassign]
    refine ⟨⟨?_, ?_⟩, keyed_tables h, length_stepRows catalog, length_caseRows testCases, ?_⟩
    · rintro ⟨error, herror⟩
      cases herror
    · rintro ⟨testCase, hcase, reference, hreference, hunknown⟩
      exact absurd (h testCase hcase reference hreference) hunknown
    · rw [tables, resolvedLinks_eq_map_references, List.length_map, length_numbered,
        length_entries]
  · obtain ⟨error, hfirst⟩ := exists_firstUnknown h
    rw [assign_eq_error hfirst]
    refine ⟨⟨fun _ => ?_, fun _ => ⟨error, rfl⟩⟩, hfirst⟩
    simpa only [not_forall, exists_prop] using h

end Dataset

end Conformance
