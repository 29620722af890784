import Conformance.Files.Path
import Conformance.Workbook

set_option autoImplicit false

/-!
# Files

The files that a run finds and leaves.  A file holds a text or a workbook; reading one as the
other fails.  A directory is there when it is listed, or something is in it or below it, and so are
the working directory and those above.  Places are counted from the working directory, whose own
way from the root is known, so that each place is reached in one way only.
-/

namespace Conformance

/-- What a file holds. -/
inductive Content where
  | text (value : String)
  | workbook (value : Workbook)
  deriving DecidableEq, Repr

/-- The files with their places. -/
structure FileSystem where
  files : List (Place × Content) := []
  /-- Directories that are there even if nothing is in them. -/
  directories : List Place := []
  /-- The names on the way from the root to the working directory. -/
  workingDirectory : List String := ["work"]
  deriving DecidableEq, Repr, Inhabited

namespace FileSystem

/-- What the file at a place holds. -/
def content? (fs : FileSystem) (place : Place) : Option Content := fs.files.lookup place

/-- There is a directory at the place. -/
def isDirectory (fs : FileSystem) (place : Place) : Bool :=
  place.names.isEmpty || fs.directories.contains place ||
    fs.directories.any (fun directory => directory.isBelow place) ||
    fs.files.any fun file => file.1.isBelow place

/-- The files with one of them added or changed. -/
def put (fs : FileSystem) (place : Place) (content : Content) : FileSystem :=
  if (fs.content? place).isSome then
    { fs with
      files := fs.files.map fun file => if file.1 = place then (place, content) else file }
  else { fs with files := fs.files ++ [(place, content)] }

/-- The files without the one at a place. -/
def remove (fs : FileSystem) (place : Place) : FileSystem :=
  { fs with files := fs.files.filter fun file => file.1 ≠ place }

/-- The root of the tree. -/
def root (fs : FileSystem) : Place := { above := fs.workingDirectory.length }

/-- The place one level up.  There is none above the root. -/
def parent (fs : FileSystem) : Place → Place
  | ⟨above, []⟩ => ⟨min (above + 1) fs.workingDirectory.length, []⟩
  | ⟨above, names⟩ => ⟨above, names.dropLast⟩

/-- The place of a name in a directory.  From a directory above the working directory one name leads
down to it again. -/
def child (fs : FileSystem) : Place → String → Place
  | ⟨above + 1, []⟩, name =>
    if fs.workingDirectory.reverse[above]? = some name then ⟨above, []⟩ else ⟨above + 1, [name]⟩
  | ⟨above, names⟩, name => ⟨above, names ++ [name]⟩

/-- The directory to which parts of a path lead from another. -/
def walk? (fs : FileSystem) : Place → List String → Option Place
  | place, [] => some place
  | place, part :: parts =>
    if part = "" || part = "." then fs.walk? place parts
    else if part = ".." then fs.walk? (fs.parent place) parts
    else if fs.isDirectory (fs.child place part) then fs.walk? (fs.child place part) parts
    else none

/-- The directory that holds what a path names. -/
def directory? (fs : FileSystem) (path : String) : Option Place :=
  if Path.isUsable path then
    fs.walk? (if Path.isAbsolute path then fs.root else .here) (Path.parts path).dropLast
  else none

/-- The place of the file that a path names.  It need not be there, but its directory must be. -/
def place? (fs : FileSystem) (path : String) : Option Place := do
  let directory ← fs.directory? path
  let name ← (Path.parts path).getLast?
  if Path.isFileName name then some (fs.child directory name) else none

/-- What the file that a path names holds. -/
def read? (fs : FileSystem) (path : String) : Option Content :=
  (fs.place? path).bind fs.content?

/-- The text that a file holds. -/
def readText? (fs : FileSystem) (path : String) : Option String :=
  match fs.read? path with
  | some (.text value) => some value
  | _ => none

/-- The workbook that a file holds. -/
def readWorkbook? (fs : FileSystem) (path : String) : Option Workbook :=
  match fs.read? path with
  | some (.workbook value) => some value
  | _ => none

end FileSystem

end Conformance
