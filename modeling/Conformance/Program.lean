set_option autoImplicit false

/-!
# The program

The name and the version under which the program speaks: in diagnostics, in the header of a
script, and when asked.
-/

namespace Conformance

/-- The name of the program. -/
def programName : String := "cctdb"

/-- The version of the program. -/
def programVersion : String := "0.1.0"

end Conformance
