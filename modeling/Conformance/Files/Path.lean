import Conformance.Text.Segments

set_option autoImplicit false

/-!
# Paths

Files are named by paths: names with slashes in between, where one point stands for the directory
itself and two points for the one above it.  A path leads from the working directory, or from the
root if it begins with a slash.
-/

namespace Conformance

/-- A place in the tree of directories: so many levels above the working directory, and from there
down along names. -/
structure Place where
  above : Nat := 0
  names : List String := []
  deriving DecidableEq, Repr, Inhabited

namespace Place

/-- The working directory. -/
def here : Place := {}

/-- The place lies in the directory or below it. -/
def isBelow (place directory : Place) : Bool :=
  place.above == directory.above && directory.names.isPrefixOf place.names &&
    directory.names.length < place.names.length

end Place

namespace Path

/-- The parts of a path between slashes. -/
def parts (path : String) : List String := (Text.segments '/' path.toList).map String.ofList

/-- The names on a path.  Empty parts and single points lead nowhere else. -/
def names (path : String) : List String :=
  (parts path).filter fun part => part != "" && part != "."

/-- How many bytes a path may have. -/
def sizeLimit : Nat := 4095

/-- How many bytes a name may have. -/
def nameLimit : Nat := 255

/-- A path that can be followed: not the empty one, and not too long. -/
def isUsable (path : String) : Bool := path != "" && path.utf8ByteSize ≤ sizeLimit

/-- The path leads from the root. -/
def isAbsolute (path : String) : Bool := path.toList.head? == some '/'

/-- A name that a file can have. -/
def isFileName (name : String) : Bool :=
  name != "" && name != "." && name != ".." && !name.toList.contains '\x00' &&
    name.utf8ByteSize ≤ nameLimit

end Path

end Conformance
