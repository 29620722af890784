import Conformance.Proofs.FirstSeen
import Conformance.Step.Catalog
import Mathlib.Data.List.Nodup

set_option autoImplicit false

/-!
# What a catalog holds

A catalog is the outcome of a sequence of definitions.  `Catalog.Holds` says which catalog that
is, without following the insertions: the identifiers are those that were defined, in first-seen
order, and under each of them stands the definition that the policy keeps.  One insertion
preserves this (`Holds.insert`), and so does a whole sequence (`Holds.insertAll`), unless
definitions are rejected and an identifier repeats.
-/

namespace Conformance

namespace DuplicatePolicy

variable {α β : Type}

/-- The definition that stays, among those of one identifier in the order they were read. -/
def keeps (policy : DuplicatePolicy) (definitions : List α) : Option α :=
  match policy with
  | .reject => definitions.head?
  | .lastWins => definitions.getLast?
  | .firstWins => definitions.head?

@[simp] theorem keeps_nil (policy : DuplicatePolicy) : policy.keeps ([] : List α) = none := by
  cases policy <;> rfl

@[simp] theorem keeps_singleton (policy : DuplicatePolicy) (a : α) :
    policy.keeps [a] = some a := by
  cases policy <;> rfl

theorem keeps_map (policy : DuplicatePolicy) (f : α → β) (as : List α) :
    policy.keeps (as.map f) = (policy.keeps as).map f := by
  cases policy <;> simp [keeps, List.head?_map, List.getLast?_map]

theorem keeps_lastWins_concat (as : List α) (a : α) : lastWins.keeps (as ++ [a]) = some a := by
  simp [keeps]

/-- Unless the last definition stays, later ones do not matter. -/
theorem keeps_of_isPrefix {policy : DuplicatePolicy} (h : policy ≠ .lastWins) {as bs : List α}
    (hfront : as <+: bs) (has : as ≠ []) : policy.keeps as = policy.keeps bs := by
  obtain ⟨more, rfl⟩ := hfront
  obtain ⟨a, rest, rfl⟩ := List.exists_cons_of_ne_nil has
  cases policy with
  | lastWins => exact absurd rfl h
  | reject => rfl
  | firstWins => rfl

theorem keeps_concat_of_ne_lastWins {policy : DuplicatePolicy} (h : policy ≠ .lastWins)
    {as : List α} (has : as ≠ []) (a : α) : policy.keeps (as ++ [a]) = policy.keeps as :=
  (keeps_of_isPrefix h (List.prefix_append as [a]) has).symm

end DuplicatePolicy

namespace Catalog

/-! ## Look-up -/

theorem contains_iff {c : Catalog} {id : String} : c.contains id = true ↔ id ∈ c.ids := by
  rw [contains, Option.isSome_iff_ne_none, ne_eq, get?_eq_none_iff, not_not]

theorem id_eq_of_get?_eq_some {c : Catalog} {id : String} {step : TestStep}
    (h : c.get? id = some step) : step.id = id := by
  simpa using List.find?_some h

/-- A step of the catalog stands under its identifier. -/
theorem get?_of_getElem? (c : Catalog) {i : Nat} {step : TestStep} (h : c.steps[i]? = some step) :
    c.get? step.id = some step := by
  cases hget : c.get? step.id with
  | none =>
    have hmem : step.id ∈ c.ids := List.mem_map_of_mem (List.mem_of_getElem? h)
    exact absurd hmem (get?_eq_none_iff.mp hget)
  | some held =>
    have hheld : held ∈ c.steps := List.mem_of_find?_eq_some hget
    have hid := id_eq_of_get?_eq_some hget
    rw [List.inj_on_of_nodup_map c.nodup hheld (List.mem_of_getElem? h) hid]

/-- The steps are found under their identifiers, in catalog order. -/
theorem map_get?_ids (c : Catalog) : c.ids.map c.get? = c.steps.map some := by
  rw [ids, List.map_map]
  apply List.map_congr_left
  intro step hstep
  obtain ⟨i, hi⟩ := List.mem_iff_getElem?.mp hstep
  exact c.get?_of_getElem? hi

/-- Appending defines one more identifier and leaves the others alone. -/
theorem get?_append (c : Catalog) (step : TestStep) (h : c.get? step.id = none) (id : String) :
    (c.append step h).get? id = if step.id = id then some step else c.get? id := by
  unfold get? append
  rw [List.find?_append]
  by_cases hid : step.id = id
  · subst hid
    rw [show c.steps.find? (fun held => held.id == step.id) = none from h]
    simp
  · simp [hid]

/-- Replacing changes what stands under one identifier, if anything does. -/
theorem get?_replace (c : Catalog) (step : TestStep) (id : String) :
    (c.replace step).get? id =
      if step.id = id then (c.get? id).map fun _ => step else c.get? id := by
  unfold get? replace
  rw [List.find?_map]
  have hsame : (fun held : TestStep => held.id == id) ∘
      (fun held => if held.id = step.id then step else held) = fun held => held.id == id := by
    funext held
    by_cases hheld : held.id = step.id <;> simp [hheld]
  rw [hsame]
  cases hfind : c.steps.find? fun held => held.id == id with
  | none => simp
  | some held =>
    have hheld : held.id = id := by simpa using List.find?_some hfind
    by_cases hid : step.id = id
    · simp [hid, hheld]
    · simp [hid, hheld, Ne.symm hid]

/-! ## Insertion -/

theorem insert_of_get?_eq_none {c : Catalog} {step : TestStep} (policy : DuplicatePolicy)
    (h : c.get? step.id = none) : c.insert step policy = .ok (c.append step h) := by
  unfold insert
  split
  · rfl
  · next held hheld => rw [h] at hheld; cases hheld

theorem insert_reject {c : Catalog} {step held : TestStep} (h : c.get? step.id = some held) :
    c.insert step .reject = .fail (.duplicateStep step.id held.location step.location) := by
  unfold insert
  split
  · next hnone => rw [h] at hnone; cases hnone
  · next other hother =>
    rw [h] at hother
    cases hother
    rfl

theorem outcome_insert_lastWins {c : Catalog} {step held : TestStep}
    (h : c.get? step.id = some held) :
    (c.insert step .lastWins).outcome = .ok (c.replace step) := by
  unfold insert
  split
  · next hnone => rw [h] at hnone; cases hnone
  · rfl

theorem outcome_insert_firstWins {c : Catalog} {step held : TestStep}
    (h : c.get? step.id = some held) : (c.insert step .firstWins).outcome = .ok c := by
  unfold insert
  split
  · next hnone => rw [h] at hnone; cases hnone
  · rfl

/-- The outcome of inserting steps one after the other under one policy. -/
def insertAll (policy : DuplicatePolicy) (c : Catalog) (steps : List TestStep) :
    Except ConvertError Catalog :=
  steps.foldlM (fun c step => (c.insert step policy).outcome) c

theorem insertAll_cons (policy : DuplicatePolicy) (c : Catalog) (step : TestStep)
    (steps : List TestStep) :
    insertAll policy c (step :: steps) =
      (c.insert step policy).outcome >>= fun c => insertAll policy c steps := rfl

theorem insertAll_append (policy : DuplicatePolicy) (c : Catalog) (xs ys : List TestStep) :
    insertAll policy c (xs ++ ys) = insertAll policy c xs >>= fun c => insertAll policy c ys := by
  simp [insertAll, List.foldlM_append]

/-! ## The contents -/

/-- The catalog that a sequence of definitions leaves under a policy. -/
structure Holds (policy : DuplicatePolicy) (definitions : List TestStep) (c : Catalog) :
    Prop where
  /-- The defined identifiers, in the order in which they were first seen. -/
  ids : c.ids = (definitions.map TestStep.id).eraseDups
  /-- Under each identifier, the definition that the policy keeps. -/
  get? : ∀ id, c.get? id = policy.keeps (definitions.filter fun step => step.id = id)

theorem holds_empty (policy : DuplicatePolicy) : Holds policy [] empty where
  ids := rfl
  get? id := by simp [empty, Catalog.get?]

namespace Holds

variable {policy : DuplicatePolicy} {definitions : List TestStep} {c : Catalog}

theorem mem_ids_iff (h : Holds policy definitions c) {id : String} :
    id ∈ c.ids ↔ id ∈ definitions.map TestStep.id := by
  rw [h.ids, List.mem_eraseDups]

/-- Definitions of distinct identifiers are all held, in the order they were read. -/
theorem steps_eq_of_nodup (h : Holds policy definitions c)
    (hnodup : (definitions.map TestStep.id).Nodup) : c.steps = definitions := by
  have hget : ∀ step ∈ definitions, c.get? step.id = some step := by
    intro step hstep
    rw [h.get?, FirstSeen.filter_eq_singleton_of_nodup hnodup hstep,
      DuplicatePolicy.keeps_singleton]
  have hids : c.ids = definitions.map TestStep.id := by
    rw [h.ids, FirstSeen.eraseDups_of_nodup hnodup]
  have hsome : c.steps.map some = definitions.map some := by
    rw [← c.map_get?_ids, hids, List.map_map]
    exact List.map_congr_left hget
  exact List.map_inj_right (fun _ _ => Option.some.inj) |>.mp hsome

/-- A step with a new identifier goes to the end. -/
theorem append (h : Holds policy definitions c) (step : TestStep) (hnew : c.get? step.id = none) :
    Holds policy (definitions ++ [step]) (c.append step hnew) := by
  have hnotMem : step.id ∉ definitions.map TestStep.id := by
    rw [← h.mem_ids_iff]
    exact get?_eq_none_iff.mp hnew
  constructor
  · rw [ids_append, h.ids, List.map_append, List.map_singleton,
      FirstSeen.eraseDups_concat_of_notMem hnotMem]
  · intro id
    rw [get?_append, List.filter_append]
    by_cases hid : step.id = id
    · have hnone : (definitions.filter fun other => other.id = id) = [] := by
        subst hid
        simpa [List.filter_eq_nil_iff] using hnotMem
      simp [hnone, hid]
    · simp [hid, h.get? id]

/-- A step with a known identifier is one more definition of it. -/
theorem ids_concat (h : Holds policy definitions c) {step held : TestStep}
    (hheld : c.get? step.id = some held) :
    c.ids = ((definitions ++ [step]).map TestStep.id).eraseDups := by
  have hmem : step.id ∈ definitions.map TestStep.id := by
    rw [← h.mem_ids_iff, ← not_not (a := step.id ∈ c.ids), ← get?_eq_none_iff, hheld]
    simp
  rw [h.ids, List.map_append, List.map_singleton, FirstSeen.eraseDups_concat_of_mem hmem]

/-- The later definition takes the place of the earlier ones. -/
theorem replace (h : Holds .lastWins definitions c) {step held : TestStep}
    (hheld : c.get? step.id = some held) :
    Holds .lastWins (definitions ++ [step]) (c.replace step) := by
  constructor
  · rw [ids_replace, h.ids_concat hheld]
  · intro id
    rw [get?_replace, List.filter_append]
    by_cases hid : step.id = id
    · subst hid
      simp [hheld, DuplicatePolicy.keeps_lastWins_concat]
    · simp [hid, h.get? id]

/-- The earlier definition stays. -/
theorem keep (h : Holds policy definitions c) (hpolicy : policy ≠ .lastWins)
    {step held : TestStep} (hheld : c.get? step.id = some held) :
    Holds policy (definitions ++ [step]) c := by
  constructor
  · exact h.ids_concat hheld
  · intro id
    rw [h.get? id, List.filter_append]
    by_cases hid : step.id = id
    · have hsome := h.get? step.id
      rw [hheld, hid] at hsome
      have hne : (definitions.filter fun other => other.id = id) ≠ [] := by
        rintro hnil
        simp [hnil] at hsome
      simp [hid, DuplicatePolicy.keeps_concat_of_ne_lastWins hpolicy hne]
    · simp [hid]

/-- One insertion: it succeeds unless a repeated identifier is rejected, and then the catalog holds
one more definition. -/
theorem insert (h : Holds policy definitions c) (step : TestStep)
    (hdistinct : policy = .reject → step.id ∉ definitions.map TestStep.id) :
    ∃ c', (c.insert step policy).outcome = .ok c' ∧ Holds policy (definitions ++ [step]) c' := by
  cases hheld : c.get? step.id with
  | none =>
    rw [insert_of_get?_eq_none policy hheld]
    exact ⟨_, rfl, h.append step hheld⟩
  | some held =>
    cases policy with
    | reject =>
      have hnone : c.get? step.id = none := by
        rw [get?_eq_none_iff, h.mem_ids_iff]
        exact hdistinct rfl
      rw [hheld] at hnone
      cases hnone
    | lastWins => exact ⟨_, outcome_insert_lastWins hheld, h.replace hheld⟩
    | firstWins => exact ⟨_, outcome_insert_firstWins hheld, h.keep (by decide) hheld⟩

/-- A whole sequence of insertions. -/
theorem insertAll (h : Holds policy definitions c) (steps : List TestStep)
    (hdistinct : policy = .reject → ((definitions ++ steps).map TestStep.id).Nodup) :
    ∃ c', Catalog.insertAll policy c steps = .ok c' ∧ Holds policy (definitions ++ steps) c' := by
  induction steps generalizing definitions c with
  | nil => exact ⟨c, rfl, by simpa using h⟩
  | cons step steps ih =>
    have hnew : policy = .reject → step.id ∉ definitions.map TestStep.id := by
      intro hpolicy hmem
      have hnodup := hdistinct hpolicy
      rw [List.map_append, List.nodup_append] at hnodup
      exact hnodup.2.2 _ hmem _ (by simp) rfl
    obtain ⟨c', hinsert, hc'⟩ := h.insert step hnew
    obtain ⟨c'', hrest, hc''⟩ := ih hc' (by simpa using hdistinct)
    refine ⟨c'', ?_, by simpa using hc''⟩
    rw [insertAll_cons, hinsert]
    exact hrest

/-- When definitions are rejected, the first repetition ends the sequence. -/
theorem insertAll_of_firstRepeat {steps : List TestStep} {first second : TestStep}
    (hrepeat : FirstSeen.FirstRepeat TestStep.id steps first second) :
    Catalog.insertAll .reject empty steps =
      .error (.duplicateStep second.id first.location second.location) := by
  obtain ⟨before, between, after, rfl, hnodup, hid⟩ := hrepeat
  obtain ⟨c, hc, hholds⟩ := (holds_empty .reject).insertAll (before ++ first :: between)
    (fun _ => by simpa using hnodup)
  have hbefore : (before.filter fun other => other.id = first.id) = [] := by
    rw [List.map_append, List.nodup_append] at hnodup
    rw [List.filter_eq_nil_iff]
    intro other hother hsame
    exact hnodup.2.2 other.id (List.mem_map_of_mem hother) first.id (by simp)
      (of_decide_eq_true hsame)
  have hheld : c.get? second.id = some first := by
    rw [hholds.get?, hid, List.nil_append, List.filter_append, hbefore]
    simp [DuplicatePolicy.keeps]
  rw [← List.cons_append, ← List.append_assoc, insertAll_append, hc]
  show Catalog.insertAll .reject c (second :: after) = _
  rw [insertAll_cons, insert_reject hheld]
  rfl

end Holds

end Catalog

end Conformance
