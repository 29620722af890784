import Conformance.Program
import Conformance.Workbook

set_option autoImplicit false

/-!
# Issues

Findings that do not stop a conversion: rows that were skipped although they hold something, and
identifiers that occur more than once.  Each issue has a severity, a code for machines, a message
for readers, and mostly the location of the row concerned.
-/

namespace Conformance

/-- How much an issue matters. -/
inductive Severity where
  | warning
  | info
  deriving DecidableEq, Repr, Inhabited

/-- A finding reported beside the result. -/
structure Issue where
  severity : Severity
  code : String
  message : String
  location : Option Location := none
  deriving DecidableEq, Repr, Inhabited

namespace Severity

/-- The word diagnostics use. -/
def word : Severity → String
  | .warning => "warning"
  | .info => "info"

end Severity

namespace Issue

/-- A step identifier is defined by more than one row. -/
def duplicateStepCode : String := "DUPLICATE_STEP"

/-- A test case identifier occurs in more than one row. -/
def duplicateCaseCode : String := "DUPLICATE_CASE"

/-- A row of a category sheet has content but no identifier. -/
def blankStepRowCode : String := "BLANK_STEP_ROW"

/-- A row of the overview has content but neither identifier nor references. -/
def blankCaseRowCode : String := "BLANK_CASE_ROW"

/-- The diagnostic line of an issue. -/
def line (issue : Issue) : String :=
  let place := match issue.location with
    | some location => s!" ({location.text})"
    | none => ""
  s!"{programName}: {issue.severity.word}:{place} [{issue.code}] {issue.message}"

end Issue

/-- How many issues there are of each severity. -/
structure IssueCount where
  warnings : Nat
  infos : Nat
  deriving DecidableEq, Repr, Inhabited

namespace IssueCount

/-- The tally of a list of issues. -/
def ofIssues (issues : List Issue) : IssueCount where
  warnings := issues.countP fun issue => issue.severity = .warning
  infos := issues.countP fun issue => issue.severity = .info

/-- Every issue is counted once. -/
theorem warnings_add_infos (issues : List Issue) :
    (ofIssues issues).warnings + (ofIssues issues).infos = issues.length := by
  induction issues with
  | nil => rfl
  | cons issue rest ih =>
    simp only [ofIssues] at ih
    cases h : issue.severity <;> simp [ofIssues, h] <;> omega

end IssueCount

end Conformance
