import Conformance.TestCase

set_option autoImplicit false

/-!
# Datasets

The four tables a conversion fills: steps, parameters, test cases, and the links from cases to
their steps.  In each table the rows are numbered from one without gaps.  Parameters and links
point to the rows they belong to by number.
-/

namespace Conformance

/-- A row of the step table. -/
structure StepRow where
  id : Int
  identifier : String
  className : String
  method : String
  description : String
  parameterCount : Nat
  deriving DecidableEq, Repr, Inhabited

/-- A row of the parameter table; `order` is the position in the step's parameter list. -/
structure ParameterRow where
  id : Int
  stepId : Int
  value : String
  order : Nat
  deriving DecidableEq, Repr, Inhabited

/-- A row of the case table. -/
structure CaseRow where
  id : Int
  identifier : String
  description : String
  container : Option String
  deriving DecidableEq, Repr, Inhabited

/-- A row of the link table; `order` is the position in the case's step list. -/
structure LinkRow where
  id : Int
  caseId : Int
  stepId : Int
  order : Nat
  deriving DecidableEq, Repr, Inhabited

/-- The four tables, each in emission order. -/
structure Dataset where
  steps : List StepRow := []
  parameters : List ParameterRow := []
  cases : List CaseRow := []
  links : List LinkRow := []
  deriving DecidableEq, Repr, Inhabited

namespace Dataset

/-- The elements of a list with their numbers, counted from one. -/
def numbered {α : Type} (xs : List α) : List (α × Nat) := xs.zipIdx 1

/-- The rows of the step table. -/
def stepRows (catalog : Catalog) : List StepRow :=
  (numbered catalog.steps).map fun (step, n) =>
    { id := n, identifier := step.id, className := step.className, method := step.method
      description := step.description, parameterCount := step.parameters.length }

/-- The rows of the parameter table: the parameters of the first step, then of the second, … -/
def parameterRows (catalog : Catalog) : List ParameterRow :=
  let owned := (numbered catalog.steps).flatMap fun (step, stepNumber) =>
    step.parameters.zipIdx.map fun (value, order) => (stepNumber, value, order)
  (numbered owned).map fun ((stepNumber, value, order), n) =>
    { id := n, stepId := stepNumber, value, order }

/-- The rows of the case table; an empty container is no container. -/
def caseRows (cases : List TestCase) : List CaseRow :=
  (numbered cases).map fun (testCase, n) =>
    { id := n, identifier := testCase.id, description := testCase.description
      container := if testCase.container = "" then none else some testCase.container }

/-- The number of the step that a reference of a test case names. -/
def stepNumber (catalog : Catalog) (testCase : TestCase) (reference : String) :
    Except ConvertError Nat :=
  match catalog.position? reference with
  | some position => .ok (position + 1)
  | none => .error (.unknownStepReference testCase.id reference testCase.location)

/-- The links of one test case: the numbers of its steps with their positions. -/
def caseLinks (catalog : Catalog) (testCase : TestCase) : Except ConvertError (List (Nat × Nat)) :=
  testCase.steps.zipIdx.mapM fun (reference, order) => do
    let number ← stepNumber catalog testCase reference
    return (number, order)

/-- The rows of the link table. -/
def linkRows (catalog : Catalog) (cases : List TestCase) : Except ConvertError (List LinkRow) := do
  let perCase ← (numbered cases).mapM fun (testCase, caseNumber) => do
    let links ← caseLinks catalog testCase
    return links.map fun (stepNumber, order) => (caseNumber, stepNumber, order)
  return (numbered perCase.flatten).map fun ((caseNumber, stepNumber, order), n) =>
    { id := n, caseId := caseNumber, stepId := stepNumber, order }

/-- Numbers the steps of a catalog and the test cases that refer to them.  Fails at the first
reference that the catalog does not hold. -/
def assign (catalog : Catalog) (cases : List TestCase) : Except ConvertError Dataset := do
  let links ← linkRows catalog cases
  return {
    steps := stepRows catalog
    parameters := parameterRows catalog
    cases := caseRows cases
    links }

@[simp] theorem length_stepRows (catalog : Catalog) :
    (stepRows catalog).length = catalog.size := by
  simp [stepRows, numbered, Catalog.size]

@[simp] theorem length_caseRows (cases : List TestCase) :
    (caseRows cases).length = cases.length := by
  simp [caseRows, numbered]

end Dataset

end Conformance
