import Conformance.Proofs.Catalog.Report

set_option autoImplicit false

/-!
# Catalogs under any sequence of insertions

Every insertion brings its own policy, and one that fails does not end the sequence.  A `Session`
is a catalog with the issues that its insertions have reported.  `Effect` says once what an
insertion can do to it: define, reject, replace or keep.  From that follow what one insertion
preserves (`Reflects.effect`) and what a whole sequence leaves behind (`reflects_run`).
-/

namespace Conformance.Catalog

/-! ## Look-up -/

/-- An identifier under which a step is held is one of the catalog. -/
theorem mem_ids_of_get?_eq_some {c : Catalog} {id : String} {held : TestStep}
    (h : c.get? id = some held) : id ∈ c.ids := by
  rw [← contains_iff, contains, h, Option.isSome_some]

/-- What is found under an identifier is the step of the catalog that has it. -/
theorem get?_eq_some_iff {c : Catalog} {id : String} {step : TestStep} :
    c.get? id = some step ↔ step ∈ c.steps ∧ step.id = id := by
  constructor
  · intro h
    exact ⟨List.mem_of_find?_eq_some h, id_eq_of_get?_eq_some h⟩
  · rintro ⟨hstep, rfl⟩
    obtain ⟨n, hn⟩ := List.mem_iff_getElem?.mp hstep
    exact c.get?_of_getElem? hn

/-! ## Sessions -/

/-- A step to be inserted, and the policy for the case that its identifier is known. -/
structure Insertion where
  step : TestStep
  policy : DuplicatePolicy
  deriving DecidableEq, Repr

/-- A catalog with the issues that its insertions have reported. -/
structure Session where
  catalog : Catalog := empty
  issues : List Issue := []

namespace Session

/-- What the catalog answers to an insertion. -/
def answer (s : Session) (i : Insertion) : Audit Catalog := s.catalog.insert i.step i.policy

/-- An insertion; if it fails, there is no new catalog and the old one stays. -/
def insert (s : Session) (i : Insertion) : Session where
  catalog :=
    match (s.answer i).outcome with
    | .ok c => c
    | .error _ => s.catalog
  issues := s.issues ++ (s.answer i).issues

/-- A sequence of insertions into an empty catalog. -/
def run (insertions : List Insertion) : Session := insertions.foldl insert {}

theorem run_concat (insertions : List Insertion) (i : Insertion) :
    run (insertions ++ [i]) = (run insertions).insert i := by
  rw [run, List.foldl_concat, run]

/-! ## One insertion -/

/-- What an insertion does to a session, and how it ends. -/
inductive Effect (s : Session) (i : Insertion) : Session → Except ConvertError Catalog → Prop where
  | defines (h : s.catalog.get? i.step.id = none) :
      Effect s i ⟨s.catalog.append i.step h, s.issues⟩ (.ok (s.catalog.append i.step h))
  | rejects {held : TestStep} (h : s.catalog.get? i.step.id = some held)
      (hpolicy : i.policy = .reject) :
      Effect s i s (.error (.duplicateStep i.step.id held.location i.step.location))
  | replaces {held : TestStep} (h : s.catalog.get? i.step.id = some held)
      (hpolicy : i.policy = .lastWins) :
      Effect s i ⟨s.catalog.replace i.step, s.issues ++ redefinitionIssues .lastWins held i.step⟩
        (.ok (s.catalog.replace i.step))
  | keeps {held : TestStep} (h : s.catalog.get? i.step.id = some held)
      (hpolicy : i.policy = .firstWins) :
      Effect s i ⟨s.catalog, s.issues ++ redefinitionIssues .firstWins held i.step⟩ (.ok s.catalog)

theorem insert_of_outcome_eq_ok {s : Session} {i : Insertion} {c : Catalog}
    (h : (s.answer i).outcome = .ok c) : s.insert i = ⟨c, s.issues ++ (s.answer i).issues⟩ := by
  rw [insert, h]

theorem insert_of_outcome_eq_error {s : Session} {i : Insertion} {e : ConvertError}
    (h : (s.answer i).outcome = .error e) :
    s.insert i = ⟨s.catalog, s.issues ++ (s.answer i).issues⟩ := by
  rw [insert, h]

theorem effect_insert (s : Session) (i : Insertion) :
    s.Effect i (s.insert i) (s.answer i).outcome := by
  obtain ⟨step, policy⟩ := i
  have hissues := issues_insert s.catalog step policy
  cases hheld : s.catalog.get? step.id with
  | none =>
    have houtcome : (s.answer ⟨step, policy⟩).outcome = .ok (s.catalog.append step hheld) := by
      rw [answer, insert_of_get?_eq_none policy hheld]
      rfl
    simp only [hheld] at hissues
    rw [insert_of_outcome_eq_ok houtcome, houtcome, answer, hissues, List.append_nil]
    exact .defines hheld
  | some held =>
    simp only [hheld] at hissues
    cases policy with
    | reject =>
      have houtcome : (s.answer ⟨step, .reject⟩).outcome =
          .error (.duplicateStep step.id held.location step.location) := by
        rw [answer, insert_reject hheld]
        rfl
      rw [insert_of_outcome_eq_error houtcome, houtcome, answer, hissues, redefinitionIssues,
        List.append_nil]
      exact .rejects hheld rfl
    | lastWins =>
      have houtcome : (s.answer ⟨step, .lastWins⟩).outcome = .ok (s.catalog.replace step) :=
        outcome_insert_lastWins hheld
      rw [insert_of_outcome_eq_ok houtcome, houtcome, answer, hissues]
      exact .replaces hheld rfl
    | firstWins =>
      have houtcome : (s.answer ⟨step, .firstWins⟩).outcome = .ok s.catalog :=
        outcome_insert_firstWins hheld
      rw [insert_of_outcome_eq_ok houtcome, houtcome, answer, hissues]
      exact .keeps hheld rfl

namespace Effect

variable {s s' : Session} {i : Insertion} {outcome : Except ConvertError Catalog}

theorem fails_iff (h : s.Effect i s' outcome) :
    (∃ e, outcome = .error e) ↔ i.policy = .reject ∧ i.step.id ∈ s.catalog.ids := by
  cases h with
  | defines hnone => simp [get?_eq_none_iff.mp hnone]
  | rejects hheld hpolicy => simp [hpolicy, mem_ids_of_get?_eq_some hheld]
  | replaces hheld hpolicy => simp [hpolicy]
  | keeps hheld hpolicy => simp [hpolicy]

theorem unchanged {e : ConvertError} (h : s.Effect i s' (.error e)) : s' = s := by
  cases h
  rfl

/-- A known identifier is warned about once. -/
theorem warns {c : Catalog} (h : s.Effect i s' (.ok c)) (hmem : i.step.id ∈ s.catalog.ids) :
    ∃ message, s'.issues = s.issues ++ [duplicateIssue i.step message] := by
  cases h with
  | defines hnone => exact absurd hmem (get?_eq_none_iff.mp hnone)
  | replaces hheld hpolicy =>
    have hwarns : DuplicatePolicy.lastWins ≠ .reject := by decide
    obtain ⟨message, hmessage⟩ := exists_redefinitionIssues_eq hwarns _ _
    exact ⟨message, congrArg (s.issues ++ ·) hmessage⟩
  | keeps hheld hpolicy =>
    have hwarns : DuplicatePolicy.firstWins ≠ .reject := by decide
    obtain ⟨message, hmessage⟩ := exists_redefinitionIssues_eq hwarns _ _
    exact ⟨message, congrArg (s.issues ++ ·) hmessage⟩

theorem quiet (h : s.Effect i s' outcome) (hnew : i.step.id ∉ s.catalog.ids) :
    s'.issues = s.issues := by
  cases h with
  | defines hnone => rfl
  | rejects hheld hpolicy => rfl
  | replaces hheld hpolicy => exact absurd (mem_ids_of_get?_eq_some hheld) hnew
  | keeps hheld hpolicy => exact absurd (mem_ids_of_get?_eq_some hheld) hnew

end Effect

/-- How an insertion is answered: it fails only if a known identifier is to be rejected, and then
nothing has changed; a known identifier that is not rejected is warned about once, at the new step,
and a new one not at all. -/
structure Answers (s : Session) (i : Insertion) : Prop where
  fails_iff : (∃ e, (s.answer i).outcome = .error e) ↔
    i.policy = .reject ∧ i.step.id ∈ s.catalog.ids
  unchanged : ∀ e, (s.answer i).outcome = .error e → s.insert i = s
  warns : ∀ c, (s.answer i).outcome = .ok c → i.step.id ∈ s.catalog.ids →
    ∃ issue, (s.insert i).issues = s.issues ++ [issue] ∧ issue.severity = .warning ∧
      issue.code = Issue.duplicateStepCode ∧ issue.location = some i.step.location
  quiet : i.step.id ∉ s.catalog.ids → (s.insert i).issues = s.issues

theorem answers (s : Session) (i : Insertion) : s.Answers i := by
  have heffect := s.effect_insert i
  constructor
  case fails_iff => exact heffect.fails_iff
  case quiet => exact heffect.quiet
  case unchanged =>
    intro e he
    rw [he] at heffect
    exact heffect.unchanged
  case warns =>
    intro c hc hmem
    rw [hc] at heffect
    obtain ⟨message, hissues⟩ := heffect.warns hmem
    exact ⟨duplicateIssue i.step message, hissues, rfl, rfl, rfl⟩

/-! ## A sequence of insertions -/

/-- The insertions that count for an identifier: its first one, and those behind it under which the
last definition wins. -/
def counting (insertions : List Insertion) (id : String) : List Insertion :=
  match insertions.filter fun i => i.step.id = id with
  | [] => []
  | first :: later => first :: later.filter fun i => i.policy = .lastWins

/-- The step of the latest insertion that counts. -/
def latest? (insertions : List Insertion) (id : String) : Option TestStep :=
  (counting insertions id).getLast?.map Insertion.step

theorem latest?_concat_of_ne (insertions : List Insertion) {i : Insertion} {id : String}
    (h : i.step.id ≠ id) : latest? (insertions ++ [i]) id = latest? insertions id := by
  rw [latest?, counting, List.filter_append, List.filter_singleton]
  simp [h, latest?, counting]

/-- One more insertion counts if it is the first one or the last definition wins. -/
theorem counting_concat (insertions : List Insertion) (i : Insertion) :
    counting (insertions ++ [i]) i.step.id =
      if counting insertions i.step.id = [] ∨ i.policy = .lastWins then
        counting insertions i.step.id ++ [i]
      else counting insertions i.step.id := by
  rw [counting, List.filter_append, counting]
  cases insertions.filter fun other => other.step.id = i.step.id with
  | nil => simp
  | cons first later => by_cases hpolicy : i.policy = .lastWins <;> simp [hpolicy]

theorem latest?_concat_self (insertions : List Insertion) (i : Insertion) :
    latest? (insertions ++ [i]) i.step.id =
      if latest? insertions i.step.id = none ∨ i.policy = .lastWins then some i.step
      else latest? insertions i.step.id := by
  have hnone : latest? insertions i.step.id = none ↔ counting insertions i.step.id = [] := by
    rw [latest?, Option.map_eq_none_iff, List.getLast?_eq_none_iff]
  simp only [hnone]
  rw [latest?, counting_concat]
  split
  · rw [List.getLast?_concat, Option.map_some]
  · rfl

/-- The catalog is what the insertions so far amount to. -/
structure Reflects (insertions : List Insertion) (s : Session) : Prop where
  ids : s.catalog.ids = (insertions.map fun i => i.step.id).eraseDups
  get? : ∀ id, s.catalog.get? id = latest? insertions id

namespace Reflects

variable {insertions : List Insertion} {s s' : Session} {i : Insertion}
  {outcome : Except ConvertError Catalog}

theorem mem_ids_iff (h : s.Reflects insertions) {id : String} :
    id ∈ s.catalog.ids ↔ id ∈ insertions.map fun i => i.step.id := by
  rw [h.ids, List.mem_eraseDups]

/-- An insertion under a known identifier adds no identifier. -/
theorem ids_concat_of_held (h : s.Reflects insertions) {held : TestStep}
    (hheld : s.catalog.get? i.step.id = some held) :
    s.catalog.ids = ((insertions ++ [i]).map fun i => i.step.id).eraseDups := by
  have hmem := h.mem_ids_iff.mp (mem_ids_of_get?_eq_some hheld)
  rw [h.ids, List.map_append, List.map_singleton, FirstSeen.eraseDups_concat_of_mem hmem]

/-- Under a known identifier the old definition counts on, unless the last one wins. -/
theorem get?_concat_of_held (h : s.Reflects insertions) {held : TestStep}
    (hheld : s.catalog.get? i.step.id = some held) (hpolicy : i.policy ≠ .lastWins) (id : String) :
    s.catalog.get? id = latest? (insertions ++ [i]) id := by
  by_cases hid : i.step.id = id
  · subst hid
    rw [latest?_concat_self, ← h.get?, hheld, if_neg (by simp [hpolicy])]
  · rw [latest?_concat_of_ne insertions hid, h.get?]

/-- One insertion preserves this. -/
theorem effect (h : s.Reflects insertions) (heffect : s.Effect i s' outcome) :
    s'.Reflects (insertions ++ [i]) := by
  cases heffect with
  | defines hnone =>
    constructor
    · have hnew : i.step.id ∉ insertions.map fun i => i.step.id :=
        fun hmem => get?_eq_none_iff.mp hnone (h.mem_ids_iff.mpr hmem)
      rw [ids_append, h.ids, List.map_append, List.map_singleton,
        FirstSeen.eraseDups_concat_of_notMem hnew]
    · intro id
      rw [get?_append]
      by_cases hid : i.step.id = id
      · subst hid
        rw [latest?_concat_self, ← h.get?, hnone, if_pos rfl, if_pos (.inl rfl)]
      · rw [latest?_concat_of_ne insertions hid, if_neg hid, h.get?]
  | rejects hheld hpolicy =>
    exact ⟨h.ids_concat_of_held hheld, h.get?_concat_of_held hheld (by simp [hpolicy])⟩
  | replaces hheld hpolicy =>
    constructor
    · rw [ids_replace, h.ids_concat_of_held hheld]
    · intro id
      rw [get?_replace]
      by_cases hid : i.step.id = id
      · subst hid
        rw [latest?_concat_self, if_pos rfl, hheld, if_pos (.inr hpolicy), Option.map_some]
      · rw [latest?_concat_of_ne insertions hid, if_neg hid, h.get?]
  | keeps hheld hpolicy =>
    exact ⟨h.ids_concat_of_held hheld, h.get?_concat_of_held hheld (by simp [hpolicy])⟩

end Reflects

/-- And so does a whole sequence. -/
theorem reflects_run (insertions : List Insertion) : (run insertions).Reflects insertions := by
  induction insertions using List.reverseRecOn with
  | nil => exact ⟨rfl, fun id => rfl⟩
  | append_singleton insertions i ih =>
    rw [run_concat]
    exact ih.effect (effect_insert _ i)

/-- The look-ups of the catalog agree with the list of its steps, and the steps are those that the
insertions so far amount to, in the order in which their identifiers were first seen. -/
structure Consistent (insertions : List Insertion) (s : Session) : Prop where
  nodup : (s.catalog.steps.map TestStep.id).Nodup
  ids : s.catalog.steps.map TestStep.id = (insertions.map fun i => i.step.id).eraseDups
  latest : ∀ id, s.catalog.get? id = latest? insertions id
  own : ∀ step ∈ s.catalog.steps, s.catalog.get? step.id = some step
  get?_iff : ∀ id step, s.catalog.get? id = some step ↔ step ∈ s.catalog.steps ∧ step.id = id
  contains_iff : ∀ id, s.catalog.contains id = true ↔ ∃ step ∈ s.catalog.steps, step.id = id
  size : s.catalog.size = s.catalog.steps.length
  isEmpty_iff : s.catalog.isEmpty = true ↔ s.catalog.steps = []

theorem Reflects.consistent {insertions : List Insertion} {s : Session}
    (h : s.Reflects insertions) : s.Consistent insertions where
  nodup := s.catalog.nodup
  ids := h.ids
  latest := h.get?
  own := fun _ hstep => get?_eq_some_iff.mpr ⟨hstep, rfl⟩
  get?_iff := fun _ _ => get?_eq_some_iff
  contains_iff := fun _ => by rw [Catalog.contains_iff, Catalog.ids, List.mem_map]
  size := rfl
  isEmpty_iff := List.isEmpty_iff

/-- After any sequence of insertions, each under its own policy, the catalog is consistent with
them, and the next insertion is answered as its policy says. -/
theorem consistent_run (insertions : List Insertion) :
    (run insertions).Consistent insertions ∧ ∀ i, (run insertions).Answers i :=
  ⟨(reflects_run insertions).consistent, answers (run insertions)⟩

end Session

end Conformance.Catalog
