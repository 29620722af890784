import Conformance.Dataset
import Conformance.Options

set_option autoImplicit false

/-!
# Conversion

From a workbook to the dataset: resolve the layout, build the catalog, assemble the test cases and
number everything.  A conversion is all or nothing; the issues found on the way come with it.
-/

namespace Conformance

/-- The counts of a conversion. -/
structure Summary where
  categorySheetCount : Nat
  stepCount : Nat
  parameterCount : Nat
  caseCount : Nat
  linkCount : Nat
  issueCount : IssueCount
  deriving DecidableEq, Repr

/-- A converted workbook. -/
structure Conversion where
  dataset : Dataset
  issues : List Issue
  summary : Summary
  deriving DecidableEq, Repr

namespace Conversion

/-- Catalog, test cases and numbers of the selected sheets, with the issues found. -/
def ofSelection (selection : Selection) (policy : DuplicatePolicy) : Audit Dataset := do
  let catalog ← Catalog.build (selection.categories.map PlacedSheet.sheet) policy
  let cases ← TestCase.assemble selection.overview.sheet catalog
  Audit.ofExcept (Dataset.assign catalog cases)

/-- The counts of a dataset and its issues. -/
def summarize (selection : Selection) (dataset : Dataset) (issues : List Issue) : Summary where
  categorySheetCount := selection.categories.length
  stepCount := dataset.steps.length
  parameterCount := dataset.parameters.length
  caseCount := dataset.cases.length
  linkCount := dataset.links.length
  issueCount := IssueCount.ofIssues issues

end Conversion

/-- Converts a workbook. -/
def convert (wb : Workbook) (options : Options) : Except ConvertError Conversion :=
  match options.layout.resolve wb with
  | .error error => .error (.layout error)
  | .ok selection =>
    let audit := Conversion.ofSelection selection options.onDuplicate
    match audit.outcome with
    | .error error => .error error
    | .ok dataset => .ok {
        dataset
        issues := audit.issues
        summary := Conversion.summarize selection dataset audit.issues }

end Conformance
