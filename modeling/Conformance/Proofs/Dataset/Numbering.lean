import Conformance.Dataset
import Conformance.Proofs.Catalog.Contents
import Conformance.Proofs.Traversal

set_option autoImplicit false

/-!
# Numbers in a dataset

Parameters belong to steps and links belong to test cases; both tables are made in the same way.
The owners are numbered from one, each entry carries the number of its owner and its position
under it, and the entries are numbered throughout.  So the entries of one owner are found again by
its number alone, in their order (`filter_entries`), and nothing else is found under that number.

The step that a link leads to is known by its number in the same way (`identifiersAt`).  Numbering
fails only at a reference that the catalog does not hold (`assign_eq_ok`).
-/

namespace Conformance

namespace Dataset

variable {α β γ : Type}

theorem exists_of_mem_numbered {as : List α} {entry : α × Nat} (h : entry ∈ numbered as) :
    ∃ i, as[i]? = some entry.1 ∧ entry = (entry.1, 1 + i) := by
  obtain ⟨hle, hget⟩ := List.mk_mem_zipIdx_iff_le_and_getElem?_sub.mp h
  refine ⟨entry.2 - 1, hget, ?_⟩
  rw [Nat.add_sub_cancel' hle]

/-- What is said about an element without regard to its number. -/
theorem map_numbered {as : List α} {f : α × Nat → β} {g : α → β}
    (h : ∀ i a, as[i]? = some a → f (a, 1 + i) = g a) : (numbered as).map f = as.map g := by
  have hsame : (numbered as).map f = (numbered as).map (g ∘ Prod.fst) := by
    apply List.map_congr_left
    intro entry hentry
    obtain ⟨i, hget, hnumber⟩ := exists_of_mem_numbered hentry
    rw [hnumber, h i entry.1 hget]
    rfl
  rw [hsame, ← List.map_map, numbered, List.zipIdx_map_fst]

/-! ## Entries and their owners -/

/-- The items of each owner, each with the number of the owner and its position under it. -/
def entries (items : α → List β) (owners : List α) (start : Nat) : List (Nat × β × Nat) :=
  (owners.zipIdx start).flatMap fun (owner, number) =>
    (items owner).zipIdx.map fun (item, order) => (number, item, order)

theorem entries_cons (items : α → List β) (owner : α) (owners : List α) (start : Nat) :
    entries items (owner :: owners) start =
      (items owner).zipIdx.map (fun (item, order) => (start, item, order)) ++
        entries items owners (start + 1) := by
  simp [entries]

/-- Owners are numbered upwards. -/
theorem le_of_mem_entries {items : α → List β} {owners : List α} {start : Nat}
    {entry : Nat × β × Nat} (h : entry ∈ entries items owners start) : start ≤ entry.1 := by
  obtain ⟨⟨owner, number⟩, howner, hentry⟩ := List.mem_flatMap.mp h
  obtain ⟨⟨item, order⟩, -, rfl⟩ := List.mem_map.mp hentry
  exact List.le_snd_of_mem_zipIdx howner

/-- An entry carries the number of its owner and its position under it. -/
theorem exists_owner_of_mem_entries {items : α → List β} {owners : List α} {start : Nat}
    {entry : Nat × β × Nat} (h : entry ∈ entries items owners start) :
    ∃ k owner, owners[k]? = some owner ∧ entry.1 = start + k ∧
      (items owner)[entry.2.2]? = some entry.2.1 := by
  obtain ⟨⟨owner, number⟩, howner, hentry⟩ := List.mem_flatMap.mp h
  obtain ⟨⟨item, order⟩, hitem, rfl⟩ := List.mem_map.mp hentry
  obtain ⟨hle, hget⟩ := List.mk_mem_zipIdx_iff_le_and_getElem?_sub.mp howner
  exact ⟨number - start, owner, hget, (Nat.add_sub_cancel' hle).symm,
    List.mk_mem_zipIdx_iff_getElem?.mp hitem⟩

/-- An entry is an item of some owner. -/
theorem exists_of_mem_entries {items : α → List β} {owners : List α} {start : Nat}
    {entry : Nat × β × Nat} (h : entry ∈ entries items owners start) :
    ∃ owner ∈ owners, entry.2.1 ∈ items owner := by
  obtain ⟨k, owner, howner, -, hitem⟩ := exists_owner_of_mem_entries h
  exact ⟨owner, List.mem_of_getElem? howner, List.mem_of_getElem? hitem⟩

/-- The items of an owner are entered under its number, at their positions. -/
theorem mem_entries {items : α → List β} {owners : List α} {start k i : Nat} {owner : α} {item : β}
    (howner : owners[k]? = some owner) (hitem : (items owner)[i]? = some item) :
    (start + k, item, i) ∈ entries items owners start := by
  refine List.mem_flatMap.mpr ⟨(owner, start + k), ?_, List.mem_map.mpr ⟨(item, i), ?_, rfl⟩⟩
  · rw [List.mk_mem_zipIdx_iff_le_and_getElem?_sub, Nat.add_sub_cancel_left]
    exact ⟨Nat.le_add_right start k, howner⟩
  · exact List.mk_mem_zipIdx_iff_getElem?.mpr hitem

/-- One entry stands before another: its owner has the smaller number, or they have the same owner
and it has the smaller position. -/
def Precedes (a b : Nat × β × Nat) : Prop := a.1 < b.1 ∨ a.1 = b.1 ∧ a.2.2 < b.2.2

theorem Precedes.asymm {a b : Nat × β × Nat} (h : Precedes a b) : ¬ Precedes b a := by
  unfold Precedes at *
  omega

/-- Entries stand in the order of their owners, those of one owner in the order of its items. -/
theorem pairwise_entries (items : α → List β) (owners : List α) (start : Nat) :
    (entries items owners start).Pairwise Precedes := by
  induction owners generalizing start with
  | nil => exact List.Pairwise.nil
  | cons owner owners ih =>
    rw [entries_cons, List.pairwise_append]
    refine ⟨?_, ih (start + 1), ?_⟩
    · have horders : ((items owner).zipIdx.map Prod.snd).Pairwise (· < ·) := by
        rw [List.zipIdx_map_snd]
        exact List.pairwise_lt_range'
      rw [List.pairwise_map] at horders ⊢
      exact horders.imp fun h => Or.inr ⟨rfl, h⟩
    · intro entry hentry later hlater
      obtain ⟨⟨item, order⟩, -, rfl⟩ := List.mem_map.mp hentry
      exact Or.inl (le_of_mem_entries hlater)

theorem length_entries (items : α → List β) (owners : List α) (start : Nat) :
    (entries items owners start).length = (owners.flatMap items).length := by
  induction owners generalizing start with
  | nil => rfl
  | cons owner owners ih => simp [entries_cons, ih]

/-- The entries are the items of all owners. -/
theorem map_item_entries (items : α → List β) (owners : List α) (start : Nat) :
    (entries items owners start).map (fun entry => entry.2.1) = owners.flatMap items := by
  induction owners generalizing start with
  | nil => rfl
  | cons owner owners ih =>
    rw [entries_cons, List.map_append, ih, List.map_map, List.flatMap_cons]
    congr 1
    exact List.zipIdx_map_fst 0 (items owner)

/-- Changing the items does not affect where they stand. -/
theorem entries_map (f : β → γ) (items : α → List β) (owners : List α) (start : Nat) :
    entries (fun owner => (items owner).map f) owners start =
      (entries items owners start).map fun entry => (entry.1, f entry.2.1, entry.2.2) := by
  simp only [entries, List.zipIdx_map, List.map_flatMap, List.map_map]
  rfl

theorem entries_map_owners (f : α → γ) (items : γ → List β) (owners : List α) (start : Nat) :
    entries items (owners.map f) start = entries (items ∘ f) owners start := by
  rw [entries, List.zipIdx_map, List.flatMap_map]
  rfl

/-- More owners at the end add entries at the end. -/
theorem entries_isPrefix {owners others : List α} (h : owners <+: others) (items : α → List β)
    (start : Nat) : entries items owners start <+: entries items others start := by
  obtain ⟨more, rfl⟩ := h
  rw [entries, entries, List.zipIdx_append, List.flatMap_append]
  exact List.prefix_append _ _

/-- The entries under the number of an owner are its items, with their positions. -/
theorem filter_entries {items : α → List β} {owners : List α} {start k : Nat} {owner : α}
    (h : owners[k]? = some owner) :
    ((entries items owners start).filter fun entry => entry.1 = start + k).map Prod.snd =
      (items owner).zipIdx := by
  induction owners generalizing start k with
  | nil => simp at h
  | cons first rest ih =>
    rw [entries_cons, List.filter_append, List.map_append]
    cases k with
    | zero =>
      obtain rfl : first = owner := by simpa using h
      have hrest : (entries items rest (start + 1)).filter
          (fun entry => entry.1 = start + 0) = [] := by
        rw [List.filter_eq_nil_iff]
        intro entry hentry
        have := le_of_mem_entries hentry
        simp
        omega
      rw [hrest]
      simp [List.filter_map, Function.comp_def]
    | succ k =>
      have hhead : ((items first).zipIdx.map fun (item, order) => (start, item, order)).filter
          (fun entry => entry.1 = start + (k + 1)) = [] := by
        rw [List.filter_eq_nil_iff]
        rintro entry hentry
        obtain ⟨⟨item, order⟩, -, rfl⟩ := List.mem_map.mp hentry
        simp
      rw [hhead, List.map_nil, List.nil_append]
      have hnext := @ih (start + 1) k (by simpa using h)
      rwa [show start + (k + 1) = start + 1 + k by omega]

/-- Numbering elements does not affect which of them are selected. -/
theorem map_fst_filter_numbered (p : α → Bool) (as : List α) (start : Nat) :
    ((as.zipIdx start).filter fun entry => p entry.1).map Prod.fst = as.filter p := by
  induction as generalizing start with
  | nil => rfl
  | cons a as ih =>
    by_cases ha : p a <;> simp [ha, ih]

/-- One element has each number. -/
theorem filter_numbered_eq_singleton {as : List α} {start k : Nat} {a : α}
    (h : as[k]? = some a) :
    (as.zipIdx start).filter (fun entry => entry.2 = start + k) = [(a, start + k)] := by
  induction as generalizing start k with
  | nil => simp at h
  | cons first rest ih =>
    rw [List.zipIdx_cons]
    cases k with
    | zero =>
      obtain rfl : first = a := by simpa using h
      have hrest : (rest.zipIdx (start + 1)).filter (fun entry => entry.2 = start + 0) = [] := by
        rw [List.filter_eq_nil_iff]
        rintro ⟨b, i⟩ hb
        have := List.le_snd_of_mem_zipIdx hb
        simp at this ⊢
        omega
      rw [List.filter_cons_of_pos (by simp), hrest]
      simp
    | succ k =>
      have hnext := @ih (start + 1) k (by simpa using h)
      rw [List.filter_cons_of_neg (by simp)]
      rwa [show start + (k + 1) = start + 1 + k by omega]

/-- The rows that point to the number of an owner are made of its items, in order. -/
theorem map_filter_rows {ρ : Type} {items : α → List β} {owners : List α} {a : α}
    {row : (Nat × β × Nat) × Nat → ρ} {owner : ρ → Int} {content : ρ → γ} {g : β × Nat → γ}
    {k : Nat} (h : owners[k]? = some a) (howner : ∀ entry, owner (row entry) = entry.1.1)
    (hcontent : ∀ entry, content (row entry) = g entry.1.2) :
    (((numbered (entries items owners 1)).map row).filter fun r =>
        owner r = ((1 + k : Nat) : Int)).map content = (items a).zipIdx.map g := by
  rw [← filter_entries h,
    ← map_fst_filter_numbered (fun entry => entry.1 = 1 + k) (entries items owners 1) 1,
    List.filter_map, List.map_map, List.map_map, List.map_map]
  have hselect : ((fun r => decide (owner r = ((1 + k : Nat) : Int))) ∘ row) =
      fun entry : (Nat × β × Nat) × Nat => decide (entry.1.1 = 1 + k) := by
    funext entry
    simp only [Function.comp_apply, howner, Int.natCast_inj]
  rw [hselect]
  apply List.map_congr_left
  intro entry _
  simp [hcontent]

/-! ## Following a number -/

/-- The links of a test case, in order. -/
def linksOf (d : Dataset) (testCase : CaseRow) : List LinkRow :=
  d.links.filter fun link => link.caseId = testCase.id

/-- The parameters of a step, in order. -/
def parametersOf (d : Dataset) (step : StepRow) : List ParameterRow :=
  d.parameters.filter fun parameter => parameter.stepId = step.id

/-- The identifiers of the steps with a number. -/
def identifiersAt (d : Dataset) (number : Int) : List String :=
  (d.steps.filter fun step => step.id = number).map StepRow.identifier

end Dataset

/-- The number that a catalog gives to the step of an identifier. -/
def Catalog.number (c : Catalog) (id : String) : Nat :=
  1 + c.steps.findIdx fun step => step.id == id

theorem Catalog.exists_number {c : Catalog} {id : String} (h : id ∈ c.ids) :
    ∃ i step, c.steps[i]? = some step ∧ step.id = id ∧ c.number id = 1 + i ∧
      c.position? id = some i := by
  have hexists : ∃ step ∈ c.steps, (step.id == id) = true := by simpa [Catalog.ids] using h
  refine ⟨_, _, List.findIdx_getElem?_eq_getElem_of_exists hexists, ?_, rfl, ?_⟩
  · simpa using List.findIdx_getElem (w := List.findIdx_lt_length_of_exists hexists)
  · exact List.findIdx?_eq_some_of_exists hexists

namespace Dataset

/-! ## The tables -/

/-- The rows of the link table, if every reference is in the catalog. -/
def resolvedLinks (catalog : Catalog) (cases : List TestCase) : List LinkRow :=
  (numbered (entries (fun testCase => testCase.steps.map catalog.number) cases 1)).map
    fun ((caseNumber, stepNumber, order), n) =>
      { id := n, caseId := caseNumber, stepId := stepNumber, order }

theorem caseLinks_eq_ok {catalog : Catalog} {testCase : TestCase}
    (h : ∀ reference ∈ testCase.steps, reference ∈ catalog.ids) :
    caseLinks catalog testCase = .ok (testCase.steps.map catalog.number).zipIdx := by
  rw [List.zipIdx_map]
  apply Traversal.mapM_eq_ok_map
  rintro ⟨reference, order⟩ hmem
  obtain ⟨i, -, -, -, hnumber, hposition⟩ :=
    Catalog.exists_number (h reference (List.fst_mem_of_mem_zipIdx hmem))
  simp [stepNumber, hposition, hnumber, Nat.add_comm, bind, Except.bind, pure, Except.pure]

theorem linkRows_eq_ok {catalog : Catalog} {cases : List TestCase}
    (h : ∀ testCase ∈ cases, ∀ reference ∈ testCase.steps, reference ∈ catalog.ids) :
    linkRows catalog cases = .ok (resolvedLinks catalog cases) := by
  have hcases : (numbered cases).mapM (fun owner => do
        let links ← caseLinks catalog owner.1
        return links.map fun item => ((owner.2 : Int), (item.1 : Int), item.2)) =
      (Except.ok ((numbered cases).map fun owner =>
        (owner.1.steps.map catalog.number).zipIdx.map fun item =>
          ((owner.2 : Int), (item.1 : Int), item.2)) : Except ConvertError _) := by
    apply Traversal.mapM_eq_ok_map
    intro owner hmem
    simp only [caseLinks_eq_ok (h owner.1 (List.fst_mem_of_mem_zipIdx hmem))]
    rfl
  have hentries : ((numbered cases).map fun owner =>
        (owner.1.steps.map catalog.number).zipIdx.map fun item =>
          ((owner.2 : Int), (item.1 : Int), item.2)).flatten =
      (entries (fun testCase => testCase.steps.map catalog.number) cases 1).map
        fun entry => ((entry.1 : Int), (entry.2.1 : Int), entry.2.2) := by
    rw [entries, List.map_flatMap, List.flatMap_def]
    simp only [List.map_map]
    rfl
  unfold linkRows
  refine (congrArg (· >>= _) hcases).trans ?_
  simp only [bind, Except.bind, pure, Except.pure]
  rw [hentries, resolvedLinks, numbered, List.zipIdx_map, List.map_map]
  rfl

/-- Numbering succeeds when the catalog holds every reference. -/
theorem assign_eq_ok {catalog : Catalog} {cases : List TestCase}
    (h : ∀ testCase ∈ cases, ∀ reference ∈ testCase.steps, reference ∈ catalog.ids) :
    assign catalog cases = .ok {
      steps := stepRows catalog
      parameters := parameterRows catalog
      cases := caseRows cases
      links := resolvedLinks catalog cases } := by
  unfold assign
  rw [linkRows_eq_ok h]
  rfl

end Dataset

end Conformance
