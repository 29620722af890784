set_option autoImplicit false

/-!
# Tables

The four tables that receive rows, each with the columns its rows fill.  The container of a test
case goes into a column of its own where there is one.
-/

namespace Conformance

/-- A table that receives rows, with the columns its rows fill, in order. -/
structure Table where
  name : String
  columns : List String
  deriving DecidableEq, Repr, Inhabited

namespace Table

/-- The table of steps. -/
def steps : Table where
  name := "TestSteps"
  columns := ["Id", "Description", "Class", "Method", "NumParameters"]

/-- The table of parameters. -/
def parameters : Table where
  name := "TestStepParameters"
  columns := ["Id", "TestStepId", "TestId", "Value", "ParamOrder"]

/-- The column for the container of a test case. -/
def containerColumn : String := "TestCaseContainer"

/-- The table of test cases, with or without a column for the container. -/
def cases (withContainer : Bool) : Table where
  name := "TestCases"
  columns :=
    ["Id", "TestGroup", "TestCaseIdentifier", "TestCaseDescription", "Status", "ExpectedStatus",
      "Enabled"] ++ (if withContainer then [containerColumn] else [])

/-- The table of links from test cases to steps. -/
def links : Table where
  name := "TestsToSteps"
  columns := ["Id", "TestStepId", "TestId", "ExecutionOrder", "Status"]

/-- The tables that receive rows, with the columns that every schema has to declare, in the order
in which rows are written. -/
def populated : List Table := [steps, parameters, cases false, links]

end Table

end Conformance
