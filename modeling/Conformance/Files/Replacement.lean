import Conformance.Files.FileSystem

set_option autoImplicit false

/-!
# Replacing a file

A file is replaced through a temporary file in the same directory: the temporary file is created,
filled and flushed, and then renamed.  Whatever fails on the way, the temporary file is removed,
and nothing else has changed.  The name of the temporary file is any that is not in use; a name
longer than all others always is one.
-/

namespace Conformance

/-- Where a replacement fails for reasons that lie outside the files. -/
inductive Fault where
  | create
  /-- Only so many characters are written. -/
  | write (count : Nat)
  | flush
  | rename
  deriving DecidableEq, Repr

/-- How a replacement went. -/
structure Replacement where
  /-- The files after each step but the last. -/
  trail : List FileSystem
  /-- The files in the end. -/
  result : FileSystem
  succeeded : Bool
  deriving DecidableEq, Repr

namespace FileSystem

/-- The names in use. -/
def names (fs : FileSystem) : List String :=
  fs.workingDirectory ++ fs.directories.flatMap Place.names ++
    fs.files.flatMap fun file => file.1.names

/-- A name that is longer than any name in use. -/
def freshName (fs : FileSystem) (path : String) : String :=
  let longest := fs.names.foldl (fun n s => max n s.length) path.length
  String.ofList ('.' :: List.replicate longest 'x')

/-- The place where a file can be put under a path: not where there is a directory. -/
def target? (fs : FileSystem) (path : String) : Option Place :=
  (fs.place? path).filter fun place => !fs.isDirectory place

/-- The directory beside the file that a path names: where the path without its last name leads.  A
path without any name has none, and the working directory takes its place. -/
def folder? (fs : FileSystem) (path : String) : Option Place :=
  if (Path.names path).isEmpty then some .here
  else fs.walk? (if Path.isAbsolute path then fs.root else .here) (Path.names path).dropLast

/-- Replaces the file that a path names, or creates it, through a temporary file of a given name. -/
def replaceThrough (fs : FileSystem) (temporaryName path text : String) (fault : Option Fault) :
    Replacement :=
  match fs.folder? path, fault with
  | none, _ | _, some .create => ⟨[], fs, false⟩
  | some directory, fault =>
    let temporary := fs.child directory temporaryName
    let created := fs.put temporary (.text "")
    match fault with
    | some (.write count) =>
      let begun := created.put temporary (.text (String.ofList (text.toList.take count)))
      ⟨[created, begun], begun.remove temporary, false⟩
    | fault =>
      let filled := created.put temporary (.text text)
      match fs.target? path, fault with
      | some target, none =>
        ⟨[created, filled], (filled.remove temporary).put target (.text text), true⟩
      | _, _ => ⟨[created, filled], filled.remove temporary, false⟩

/-- Replaces the file that a path names, or creates it. -/
def replace (fs : FileSystem) (path text : String) (fault : Option Fault) : Replacement :=
  fs.replaceThrough (fs.freshName path) path text fault

end FileSystem

end Conformance
