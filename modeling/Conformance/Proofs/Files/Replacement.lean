import Conformance.Files.Replacement
import Conformance.Proofs.Text.Segments
import Mathlib.Tactic.ByContra

set_option autoImplicit false

/-!
# All or nothing

A replacement either fails and leaves every file as it was, or it succeeds and puts the text at the
place that the path names and nowhere else.  The temporary file in between has a name that no file
has, so that removing it undoes whatever has been done to it.
-/

namespace Conformance.FileSystem

variable {fs : FileSystem} {place other : Place} {content : Content}

/-! ## Putting and removing -/

theorem content?_eq_none_iff : fs.content? place = none ↔ ∀ file ∈ fs.files, file.1 ≠ place := by
  simp only [content?, List.lookup_eq_none_iff, bne_iff_ne]
  exact ⟨fun h file hfile => (h file hfile).symm, fun h file hfile => (h file hfile).symm⟩

/-- Changing the entries of one key changes what is found under it, and nothing else. -/
theorem lookup_map_update (files : List (Place × Content)) (place other : Place)
    (content : Content) :
    (files.map fun file => if file.1 = place then (place, content) else file).lookup other =
      if other = place then (files.lookup place).map fun _ => content else files.lookup other := by
  induction files with
  | nil => simp
  | cons file files ih =>
    obtain ⟨key, value⟩ := file
    by_cases hkey : key = place
    · subst hkey
      by_cases hother : other = key
      · simp [hother]
      · have hbeq : (other == key) = false := by simpa using hother
        simpa [List.lookup_cons, hbeq, hother] using ih
    · by_cases hother : other = key
      · have hne : ¬ other = place := by rwa [hother]
        simp [hkey, hother]
      · have hbeq : (other == key) = false := by simpa using hother
        have hbeq' : (place == key) = false := by simpa using Ne.symm hkey
        simpa [List.lookup_cons, hbeq, hbeq', hkey] using ih

/-- After putting a file at a place it is found there, and all others are found as before. -/
theorem content?_put (fs : FileSystem) (place other : Place) (content : Content) :
    (fs.put place content).content? other =
      if other = place then some content else fs.content? other := by
  unfold put
  split
  · next h =>
    obtain ⟨old, hold⟩ := Option.isSome_iff_exists.mp h
    rw [content?] at hold
    rw [content?, lookup_map_update, hold]
    rfl
  · next h =>
    rw [Option.not_isSome_iff_eq_none] at h
    simp only [content?] at h ⊢
    rw [List.lookup_append]
    by_cases hother : other = place
    · simp [hother, h]
    · have hbeq : (other == place) = false := by simpa using hother
      simp [List.lookup_cons, hbeq, hother]

theorem filter_map_update (files : List (Place × Content)) (place : Place) (content : Content) :
    (files.map fun file => if file.1 = place then (place, content) else file).filter
      (fun file => file.1 ≠ place) = files.filter fun file => file.1 ≠ place := by
  induction files with
  | nil => rfl
  | cons file files ih =>
    by_cases hkey : file.1 = place
    · simpa [hkey] using ih
    · simpa [hkey] using ih

/-- Removing a file undoes what has been put at its place. -/
theorem remove_put (fs : FileSystem) (place : Place) (content : Content) :
    (fs.put place content).remove place = fs.remove place := by
  unfold put
  split
  · rw [remove, filter_map_update, remove]
  · simp [remove]

theorem remove_of_content?_eq_none (h : fs.content? place = none) : fs.remove place = fs := by
  rw [content?_eq_none_iff] at h
  rw [remove, List.filter_eq_self.mpr]
  simpa using h

/-! ## Paths -/

@[simp] theorem workingDirectory_put (fs : FileSystem) (place : Place) (content : Content) :
    (fs.put place content).workingDirectory = fs.workingDirectory := by
  unfold put
  split <;> rfl

@[simp] theorem root_put (fs : FileSystem) (place : Place) (content : Content) :
    (fs.put place content).root = fs.root := by
  simp only [root, workingDirectory_put]

@[simp] theorem parent_put (fs : FileSystem) (place directory : Place) (content : Content) :
    (fs.put place content).parent directory = fs.parent directory := by
  simp only [parent, workingDirectory_put]

@[simp] theorem child_put (fs : FileSystem) (place directory : Place) (content : Content)
    (name : String) : (fs.put place content).child directory name = fs.child directory name := by
  simp only [child, workingDirectory_put]

@[simp] theorem directories_put (fs : FileSystem) (place : Place) (content : Content) :
    (fs.put place content).directories = fs.directories := by
  unfold put
  split <;> rfl

/-- A directory stays a directory. -/
theorem isDirectory_put (place : Place) (content : Content) {directory : Place}
    (h : fs.isDirectory directory = true) :
    (fs.put place content).isDirectory directory = true := by
  simp only [isDirectory, directories_put, Bool.or_eq_true, List.any_eq_true] at h ⊢
  refine h.imp_right ?_
  rintro ⟨file, hfile, hbelow⟩
  unfold put
  split
  · refine ⟨_, List.mem_map_of_mem hfile, ?_⟩
    split
    · next hkey => rwa [← hkey]
    · exact hbelow
  · exact ⟨file, List.mem_append_left _ hfile, hbelow⟩

theorem walk?_put (place : Place) (content : Content) {parts : List String} {start found : Place}
    (h : fs.walk? start parts = some found) :
    (fs.put place content).walk? start parts = some found := by
  induction parts generalizing start with
  | nil => exact h
  | cons part parts ih =>
    unfold walk? at h ⊢
    simp only [parent_put, child_put]
    split at h
    · next hhere => rw [if_pos hhere, ih h]
    · next hhere =>
      rw [if_neg hhere]
      split at h
      · next habove => rw [if_pos habove, ih h]
      · next habove =>
        rw [if_neg habove]
        split at h
        · next hdirectory => rw [if_pos (isDirectory_put place content hdirectory), ih h]
        · cases h

theorem directory?_put (place : Place) (content : Content) {path : String} {directory : Place}
    (h : fs.directory? path = some directory) :
    (fs.put place content).directory? path = some directory := by
  unfold directory? at h ⊢
  rw [root_put]
  split at h
  · next husable => rw [if_pos husable, walk?_put place content h]
  · cases h

/-- A path goes on to name the same place. -/
theorem place?_put (place : Place) (content : Content) {path : String}
    (h : fs.place? path = some other) : (fs.put place content).place? path = some other := by
  unfold place? at h ⊢
  obtain ⟨directory, hdirectory, hname⟩ := Option.bind_eq_some_iff.mp h
  simp only [child_put]
  rw [directory?_put place content hdirectory]
  exact hname

/-- What has been put where a path leads is read back through the path. -/
theorem readText?_put {path : String} (h : fs.place? path = some place) (text : String) :
    (fs.put place (.text text)).readText? path = some text := by
  have hread : (fs.put place (.text text)).read? path = some (.text text) := by
    rw [read?, place?_put place _ h, Option.bind_some, content?_put, if_pos rfl]
  rw [readText?, hread]

/-! ## The temporary file -/

theorem le_foldl_max_length (names : List String) (start : Nat) :
    start ≤ names.foldl (fun n s => max n s.length) start ∧
      ∀ name ∈ names, name.length ≤ names.foldl (fun n s => max n s.length) start := by
  induction names generalizing start with
  | nil => simp
  | cons name names ih =>
    obtain ⟨hstart, hnames⟩ := ih (max start name.length)
    rw [List.foldl_cons, List.forall_mem_cons]
    exact ⟨by omega, by omega, hnames⟩

/-- The name of the temporary file is longer than any name in use. -/
theorem length_lt_freshName {name : String} (h : name ∈ fs.names) (path : String) :
    name.length < (fs.freshName path).length := by
  rw [freshName, String.length_ofList, List.length_cons, List.length_replicate]
  exact Nat.lt_succ_of_le ((le_foldl_max_length _ path.length).2 name h)

/-- It is longer than any name on the path as well. -/
theorem length_lt_freshName_of_mem_parts (fs : FileSystem) {path name : String}
    (h : name ∈ Path.parts path) : name.length < (fs.freshName path).length := by
  obtain ⟨piece, hpiece, rfl⟩ := List.mem_map.mp h
  have hpath : piece.length ≤ path.length :=
    (Text.sublist_of_mem_segments '/' path.toList piece hpiece).length_le
  rw [freshName, String.length_ofList, String.length_ofList, List.length_cons,
    List.length_replicate]
  exact Nat.lt_succ_of_le (Nat.le_trans hpath (le_foldl_max_length _ path.length).1)

theorem freshName_notMem_names (fs : FileSystem) (path : String) :
    fs.freshName path ∉ fs.names :=
  fun h => Nat.lt_irrefl _ (length_lt_freshName h path)

/-- In any directory the name of the temporary file leads to a place of that name. -/
theorem child_freshName (fs : FileSystem) (directory : Place) (path : String) :
    fs.child directory (fs.freshName path) =
      ⟨directory.above, directory.names ++ [fs.freshName path]⟩ := by
  unfold child
  split
  · rw [if_neg]
    · rfl
    · intro hname
      have hmem := List.mem_reverse.mp (List.mem_of_getElem? hname)
      exact fs.freshName_notMem_names path (by simp [names, hmem])
  · rfl

/-- No file has the name of the temporary file. -/
theorem content?_child_freshName (fs : FileSystem) (directory : Place) (path : String) :
    fs.content? (fs.child directory (fs.freshName path)) = none := by
  rw [content?_eq_none_iff, child_freshName]
  intro file hfile hplace
  have hname : fs.freshName path ∈ file.1.names := by simp [hplace]
  have hmem : fs.freshName path ∈ fs.files.flatMap fun file => file.1.names :=
    List.mem_flatMap.mpr ⟨file, hfile, hname⟩
  exact fs.freshName_notMem_names path (List.mem_append_right _ hmem)

/-- Removing a file that was not there before restores what was before it was put. -/
theorem remove_put_eq_self (h : fs.content? place = none) (content : Content) :
    (fs.put place content).remove place = fs := by
  rw [remove_put, remove_of_content?_eq_none h]

/-! ## Replacements -/

variable {path : String} {fault : Option Fault}

/-- Empty parts and single points may be left out on the way. -/
theorem walk?_filter (fs : FileSystem) (start : Place) (parts : List String) :
    fs.walk? start (parts.filter fun part => part != "" && part != ".") =
      fs.walk? start parts := by
  induction parts generalizing start with
  | nil => rfl
  | cons part parts ih =>
    by_cases hstays : part = "" ∨ part = "."
    · rw [List.filter_cons_of_neg (by simpa [Classical.or_iff_not_imp_left] using hstays), walk?,
        if_pos (by simpa using hstays), ih]
    · rw [List.filter_cons_of_pos (by simpa using hstays), walk?, walk?]
      simp only [ih]

/-- A file stands in the directory beside it. -/
theorem folder?_of_place? (h : fs.place? path = some place) :
    ∃ directory name, fs.folder? path = some directory ∧
      (Path.parts path).getLast? = some name ∧ place = fs.child directory name := by
  obtain ⟨directory, hdirectory, hrest⟩ := Option.bind_eq_some_iff.mp h
  obtain ⟨name, hname, hchild⟩ := Option.bind_eq_some_iff.mp hrest
  have hfile : Path.isFileName name = true := by
    by_contra hnot
    rw [if_neg hnot] at hchild
    cases hchild
  rw [if_pos hfile] at hchild
  refine ⟨directory, name, ?_, hname, (Option.some.inj hchild).symm⟩
  obtain ⟨parts, hparts⟩ := List.getLast?_eq_some_iff.mp hname
  have hnames : Path.names path =
      (parts.filter fun part => part != "" && part != ".") ++ [name] := by
    have hkept : (name != "" && name != ".") = true := by
      simp only [Path.isFileName, Bool.and_eq_true] at hfile ⊢
      exact hfile.1.1.1
    rw [Path.names, hparts, List.filter_append]
    simp only [List.filter_cons, hkept, if_true, List.filter_nil]
  rw [folder?, hnames, if_neg (by simp), List.dropLast_concat, walk?_filter]
  rw [directory?, hparts, List.dropLast_concat] at hdirectory
  split at hdirectory
  · exact hdirectory
  · cases hdirectory

theorem exists_folder?_of_target? {target : Place} (h : fs.target? path = some target) :
    ∃ directory, fs.folder? path = some directory := by
  obtain ⟨hplace, -⟩ := Option.filter_eq_some_iff.mp h
  obtain ⟨directory, -, hfolder, -⟩ := folder?_of_place? hplace
  exact ⟨directory, hfolder⟩

/-- The directory beside the path, if there is one, has no file of this name. -/
def Lacks (fs : FileSystem) (path name : String) : Prop :=
  ∀ directory, fs.folder? path = some directory → fs.content? (fs.child directory name) = none

theorem lacks_freshName (fs : FileSystem) (path : String) : fs.Lacks path (fs.freshName path) :=
  fun directory _ => fs.content?_child_freshName directory path

/-- A replacement without a fault, where there is a place for the file. -/
theorem replaceThrough_of_target? {name : String} (hlacks : fs.Lacks path name) {target : Place}
    (h : fs.target? path = some target) (text : String) :
    (fs.replaceThrough name path text none).succeeded = true ∧
      (fs.replaceThrough name path text none).result = fs.put target (.text text) := by
  obtain ⟨directory, hdirectory⟩ := exists_folder?_of_target? h
  have hfree := hlacks directory hdirectory
  simp only [replaceThrough, hdirectory, h, remove_put, remove_put_eq_self hfree, and_self]

/-- A replacement that a fault befalls, or that finds no place for the file, leaves the files as
they were. -/
theorem replaceThrough_of_fault {name : String} (hlacks : fs.Lacks path name)
    (h : fault ≠ none ∨ fs.target? path = none) (text : String) :
    (fs.replaceThrough name path text fault).succeeded = false ∧
      (fs.replaceThrough name path text fault).result = fs := by
  unfold replaceThrough
  split
  · exact ⟨rfl, rfl⟩
  · exact ⟨rfl, rfl⟩
  · next _ directory hdirectory hcreate =>
    have hfree := hlacks directory hdirectory
    dsimp only
    split
    · exact ⟨rfl, by rw [remove_put, remove_put_eq_self hfree]⟩
    · split
      · next _ htarget _ => simp [htarget] at h
      · exact ⟨rfl, by rw [remove_put, remove_put_eq_self hfree]⟩

theorem replace_of_target? {target : Place} (h : fs.target? path = some target) (text : String) :
    (fs.replace path text none).succeeded = true ∧
      (fs.replace path text none).result = fs.put target (.text text) :=
  replaceThrough_of_target? (fs.lacks_freshName path) h text

theorem replace_of_fault (h : fault ≠ none ∨ fs.target? path = none) (text : String) :
    (fs.replace path text fault).succeeded = false ∧ (fs.replace path text fault).result = fs :=
  replaceThrough_of_fault (fs.lacks_freshName path) h text

end Conformance.FileSystem
