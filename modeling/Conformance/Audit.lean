import Conformance.Issue
import Conformance.Layout

set_option autoImplicit false

/-!
# Audited computations

The conversion either fails with one error or yields a value; in both cases it has found a list of
issues on the way.  An audited computation keeps the two apart: the issues found so far, in order,
and the outcome.  Sequencing stops at the first error and keeps the issues found before it.
-/

namespace Conformance

/-- Why a workbook cannot be converted. -/
inductive ConvertError where
  | layout (error : LayoutError)
  | unknownStepReference (testCase reference : String) (location : Location)
  | emptyStepReference (testCase : String) (position : Nat) (location : Location)
  | caseWithoutIdentifier (references : String) (location : Location)
  | duplicateStep (id : String) (first second : Location)
  deriving DecidableEq, Repr

namespace ConvertError

/-- The text shown for the error. -/
def message : ConvertError → String
  | .layout error => error.message
  | .unknownStepReference testCase reference location =>
    s!"test case '{testCase}' ({location.text}) references unknown step '{reference}'"
  | .emptyStepReference testCase position location =>
    s!"test case '{testCase}' ({location.text}) has an empty step reference at position {position}"
  | .caseWithoutIdentifier references location =>
    s!"{location.text} lists steps '{references}' but has no test case identifier"
  | .duplicateStep id first second =>
    s!"step '{id}' is defined more than once: {first.text} and {second.text}"

end ConvertError

/-- The issues found by a computation and how it ended. -/
structure Audit (α : Type) where
  issues : List Issue
  outcome : Except ConvertError α

namespace Audit

variable {α β : Type}

/-- A value without any issue. -/
def ok (a : α) : Audit α := ⟨[], .ok a⟩

/-- An error without any issue. -/
def fail (error : ConvertError) : Audit α := ⟨[], .error error⟩

/-- A computation that finds no issues. -/
def ofExcept (outcome : Except ConvertError α) : Audit α := ⟨[], outcome⟩

/-- The second computation runs on the value of the first and adds its issues at the end. -/
def bind (a : Audit α) (f : α → Audit β) : Audit β :=
  match a.outcome with
  | .ok value => ⟨a.issues ++ (f value).issues, (f value).outcome⟩
  | .error error => ⟨a.issues, .error error⟩

instance : Monad Audit where
  pure := ok
  bind := bind

@[simp] theorem ok_bind (a : α) (f : α → Audit β) : (ok a).bind f = f a := by
  simp [bind, ok]

@[simp] theorem fail_bind (error : ConvertError) (f : α → Audit β) :
    (fail error : Audit α).bind f = fail error := by
  simp [bind, fail]

theorem bind_ok (a : Audit α) : a.bind ok = a := by
  obtain ⟨issues, outcome⟩ := a
  cases outcome <;> simp [bind, ok]

/-- After a computation that succeeds, its issues come first. -/
theorem bind_of_outcome_eq_ok {a : Audit α} {value : α} (h : a.outcome = .ok value)
    (f : α → Audit β) : a.bind f = ⟨a.issues ++ (f value).issues, (f value).outcome⟩ := by
  rw [bind, h]

theorem bind_of_outcome_eq_error {a : Audit α} {error : ConvertError}
    (h : a.outcome = .error error) (f : α → Audit β) : a.bind f = ⟨a.issues, .error error⟩ := by
  rw [bind, h]

/-- Sequencing audited computations sequences their outcomes. -/
theorem outcome_bind (a : Audit α) (f : α → Audit β) :
    (a.bind f).outcome = a.outcome >>= fun value => (f value).outcome := by
  unfold bind
  cases a.outcome <;> rfl

end Audit

end Conformance
