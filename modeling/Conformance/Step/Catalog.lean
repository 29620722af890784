import Conformance.Audit

set_option autoImplicit false

/-!
# The step catalog

The steps of all category sheets under their identifiers, in the order in which the identifiers
were first seen.  A catalog never holds two steps of one identifier.  What happens when an
identifier is defined again is a policy: the conversion fails, or the later definition takes the
place of the earlier one, or the earlier one stays; the last two leave a warning.
-/

namespace Conformance

/-- An operation that test cases refer to, as a row of a category sheet defines it. -/
structure TestStep where
  id : String
  className : String
  method : String
  description : String
  parameters : List String
  location : Location
  deriving DecidableEq, Repr, Inhabited

/-- What to do when two rows define the same step. -/
inductive DuplicatePolicy where
  | reject
  | lastWins
  | firstWins
  deriving DecidableEq, Repr, Inhabited

namespace DuplicatePolicy

/-- All policies. -/
def all : List DuplicatePolicy := [.reject, .lastWins, .firstWins]

/-- The name of a policy on the command line and in documents. -/
def name : DuplicatePolicy → String
  | .reject => "reject"
  | .lastWins => "last-wins"
  | .firstWins => "first-wins"

/-- The policy of a name. -/
def ofName? (name : String) : Option DuplicatePolicy := all.find? fun policy => policy.name == name

@[simp] theorem ofName?_name (policy : DuplicatePolicy) : ofName? policy.name = some policy := by
  cases policy <;> decide

end DuplicatePolicy

/-- Steps with distinct identifiers, in first-seen order. -/
structure Catalog where
  steps : List TestStep
  nodup : (steps.map TestStep.id).Nodup

namespace Catalog

/-- The catalog without any step. -/
def empty : Catalog := ⟨[], by simp⟩

instance : Inhabited Catalog := ⟨empty⟩

/-- The number of steps. -/
def size (c : Catalog) : Nat := c.steps.length

/-- There is no step. -/
def isEmpty (c : Catalog) : Bool := c.steps.isEmpty

/-- The identifiers in catalog order. -/
def ids (c : Catalog) : List String := c.steps.map TestStep.id

/-- The step of an identifier. -/
def get? (c : Catalog) (id : String) : Option TestStep := c.steps.find? fun step => step.id == id

/-- The identifier is defined. -/
def contains (c : Catalog) (id : String) : Bool := (c.get? id).isSome

/-- The position of an identifier in catalog order. -/
def position? (c : Catalog) (id : String) : Option Nat :=
  c.steps.findIdx? fun step => step.id == id

theorem get?_eq_none_iff {c : Catalog} {id : String} : c.get? id = none ↔ id ∉ c.ids := by
  simp [get?, ids]

/-- A step whose identifier is new goes to the end. -/
def append (c : Catalog) (step : TestStep) (h : c.get? step.id = none) : Catalog where
  steps := c.steps ++ [step]
  nodup := by
    have hnew := get?_eq_none_iff.mp h
    simp only [ids] at hnew
    rw [List.map_append, List.nodup_append]
    refine ⟨c.nodup, by simp, ?_⟩
    intro a ha b hb hab
    simp only [List.map_cons, List.map_nil, List.mem_singleton] at hb
    exact hnew (hb ▸ hab ▸ ha)

/-- A step takes the place of the one with its identifier. -/
def replace (c : Catalog) (step : TestStep) : Catalog where
  steps := c.steps.map fun held => if held.id = step.id then step else held
  nodup := by
    have : (c.steps.map fun held => if held.id = step.id then step else held).map TestStep.id
        = c.steps.map TestStep.id := by
      rw [List.map_map]
      apply List.map_congr_left
      intro held _
      by_cases h : held.id = step.id <;> simp [h]
    rw [this]
    exact c.nodup

/-- The warning for a step that is defined again. -/
def duplicateIssue (step : TestStep) (message : String) : Issue :=
  { severity := .warning, code := Issue.duplicateStepCode, message, location := some step.location }

/-- Adds a step; `policy` settles what happens when its identifier is defined already. -/
def insert (c : Catalog) (step : TestStep) (policy : DuplicatePolicy) : Audit Catalog :=
  match h : c.get? step.id with
  | none => .ok (c.append step h)
  | some held =>
    let first := held.location
    let second := step.location
    match policy with
    | .reject => .fail (.duplicateStep step.id first second)
    | .lastWins =>
      ⟨[duplicateIssue step s!"step '{step.id}' redefined; {second.text} replaces {first.text}"],
        .ok (c.replace step)⟩
    | .firstWins =>
      ⟨[duplicateIssue step
          s!"step '{step.id}' redefined; {second.text} ignored in favour of {first.text}"],
        .ok c⟩

@[simp] theorem ids_append (c : Catalog) (step : TestStep) (h : c.get? step.id = none) :
    (c.append step h).ids = c.ids ++ [step.id] := by
  simp [append, ids]

@[simp] theorem ids_replace (c : Catalog) (step : TestStep) : (c.replace step).ids = c.ids := by
  simp only [ids, replace, List.map_map]
  apply List.map_congr_left
  intro held _
  by_cases h : held.id = step.id <;> simp [h]

end Catalog

end Conformance
