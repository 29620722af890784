import Conformance.Proofs.Files.Replacement
import Mathlib.Data.List.Basic

set_option autoImplicit false

/-!
# Histories of replacements

Files are replaced one after the other, each through a temporary file whose name is not in use at
the time, and each may fail at any step.  A replacement is atomic (`Replacement.Atomic`): on the way
nothing but the temporary file differs from what was there before, at the end the file is replaced
or nothing has happened, and the file that the path names holds its old content or the whole new
one at every moment.

Neither the temporary file nor the file replaced makes a directory, so paths lead to the same places
all the time (`isDirectory_put_of_housed`).  Therefore what a file holds after a history of
replacements can be told from the start: it is the text of the last one that was made to its place
without a fault (`history_atomic`).
-/

namespace Conformance

/-- A replacement that is to be made. -/
structure Call where
  path : String
  text : String
  /-- The name chosen for the temporary file. -/
  temporaryName : String
  fault : Option Fault := none
  deriving DecidableEq, Repr

namespace Call

/-- The replacement made. -/
def perform (call : Call) (fs : FileSystem) : Replacement :=
  fs.replaceThrough call.temporaryName call.path call.text call.fault

/-- The place of the temporary file, if there is a directory for it. -/
def temporary? (call : Call) (fs : FileSystem) : Option Place :=
  (fs.folder? call.path).map fun directory => fs.child directory call.temporaryName

/-- The place of the temporary file is not in use, and it is not what the path names. -/
def Fresh (call : Call) (fs : FileSystem) : Prop :=
  ∀ place, call.temporary? fs = some place →
    fs.content? place = none ∧ fs.place? call.path ≠ some place

instance (call : Call) (fs : FileSystem) : Decidable (call.Fresh fs) :=
  match h : call.temporary? fs with
  | none => isTrue (by simp [Fresh, h])
  | some place =>
    decidable_of_iff (fs.content? place = none ∧ fs.place? call.path ≠ some place)
      (by simp [Fresh, h])

/-- The file is replaced: there is a place for it, and no fault befalls the replacement. -/
def Reaches (call : Call) (fs : FileSystem) (target : Place) : Prop :=
  call.fault = none ∧ fs.target? call.path = some target

instance (call : Call) (fs : FileSystem) (target : Place) : Decidable (call.Reaches fs target) :=
  inferInstanceAs (Decidable (_ ∧ _))

end Call

namespace FileSystem

variable {fs : FileSystem} {place directory other : Place} {content : Content}

/-! ## Directories -/

theorem isBelow_iff {place directory : Place} :
    place.isBelow directory = true ↔ place.above = directory.above ∧
      directory.names <+: place.names ∧ directory.names.length < place.names.length := by
  simp [Place.isBelow, and_assoc]

theorem isBelow_trans {a b c : Place} (hab : a.isBelow b = true) (hbc : b.isBelow c = true) :
    a.isBelow c = true := by
  rw [isBelow_iff] at *
  exact ⟨hab.1.trans hbc.1, hbc.2.1.trans hab.2.1, Nat.lt_trans hbc.2.2 hab.2.2⟩

/-- What a directory lies in is a directory. -/
theorem isDirectory_of_isBelow (h : fs.isDirectory place = true)
    (hbelow : place.isBelow directory = true) : fs.isDirectory directory = true := by
  simp only [isDirectory, Bool.or_eq_true, List.any_eq_true] at h ⊢
  rcases h with ((hroot | hlisted) | ⟨other, hother, hin⟩) | ⟨file, hfile, hin⟩
  · rw [List.isEmpty_iff] at hroot
    rw [isBelow_iff, hroot] at hbelow
    exact absurd hbelow.2.2 (Nat.not_lt_zero _)
  · exact .inl (.inr ⟨place, by simpa using hlisted, hbelow⟩)
  · exact .inl (.inr ⟨other, hother, isBelow_trans hin hbelow⟩)
  · exact .inr ⟨file, hfile, isBelow_trans hin hbelow⟩

/-- Everything that the place lies in is a directory. -/
def Housed (fs : FileSystem) (place : Place) : Prop :=
  ∀ directory, place.isBelow directory = true → fs.isDirectory directory = true

/-- A name leads one level down, or back to the working directory or one above it. -/
theorem child_eq (fs : FileSystem) (directory : Place) (name : String) :
    fs.child directory name = ⟨directory.above, directory.names ++ [name]⟩ ∨
      (fs.child directory name).names = [] := by
  unfold child
  split
  · split
    · exact .inr rfl
    · exact .inl rfl
  · exact .inl rfl

theorem housed_child (h : fs.isDirectory directory = true) (name : String) :
    fs.Housed (fs.child directory name) := by
  intro other hbelow
  rw [isBelow_iff] at hbelow
  obtain ⟨habove, hprefix, hlength⟩ := hbelow
  rcases fs.child_eq directory name with hchild | hnames
  · rw [hchild] at habove hprefix hlength
    have hin : other.names <+: directory.names := by
      rcases List.prefix_concat_iff.mp hprefix with heq | hin
      · exact absurd (congrArg List.length heq) (Nat.ne_of_lt hlength)
      · exact hin
    -- the directory itself, or one that it lies in
    rcases Nat.lt_or_ge other.names.length directory.names.length with hlt | hge
    · exact isDirectory_of_isBelow h (isBelow_iff.mpr ⟨habove, hin, hlt⟩)
    · have hother : other = directory := by
        cases other
        cases directory
        simp only [Place.mk.injEq]
        exact ⟨habove.symm, hin.eq_of_length_le hge⟩
      rwa [hother]
  · rw [hnames] at hlength
    exact absurd hlength (Nat.not_lt_zero _)

theorem isDirectory_parent (h : fs.isDirectory directory = true) :
    fs.isDirectory (fs.parent directory) = true := by
  unfold parent
  split
  · simp [isDirectory]
  · next above names hnames =>
    refine isDirectory_of_isBelow h (isBelow_iff.mpr ⟨rfl, List.dropLast_prefix names, ?_⟩)
    rw [List.length_dropLast]
    exact Nat.pred_lt (by simpa using hnames)

/-- A way leads from a directory to a directory. -/
theorem isDirectory_of_walk? {parts : List String} {start found : Place}
    (hstart : fs.isDirectory start = true) (h : fs.walk? start parts = some found) :
    fs.isDirectory found = true := by
  induction parts generalizing start with
  | nil => exact Option.some.inj h ▸ hstart
  | cons part parts ih =>
    unfold walk? at h
    split at h
    · exact ih hstart h
    · split at h
      · exact ih (isDirectory_parent hstart) h
      · split at h
        · next hchild => exact ih hchild h
        · cases h

theorem isDirectory_of_folder? {path : String} (h : fs.folder? path = some directory) :
    fs.isDirectory directory = true := by
  unfold folder? at h
  split at h
  · exact Option.some.inj h ▸ by simp [isDirectory, Place.here]
  · refine isDirectory_of_walk? ?_ h
    split <;> simp [isDirectory, Place.here, root]

theorem housed_of_place? {path : String} (h : fs.place? path = some place) : fs.Housed place := by
  obtain ⟨directory, name, hfolder, -, rfl⟩ := folder?_of_place? h
  exact housed_child (isDirectory_of_folder? hfolder) name

/-- All files but the one that was put were there before. -/
theorem mem_files_of_mem_put {file : Place × Content} (h : file ∈ (fs.put place content).files)
    (hplace : file.1 ≠ place) : file ∈ fs.files := by
  unfold put at h
  split at h
  · obtain ⟨old, hold, hfile⟩ := List.mem_map.mp h
    by_cases hkey : old.1 = place
    · rw [if_pos hkey] at hfile
      exact absurd (congrArg Prod.fst hfile).symm hplace
    · rw [if_neg hkey] at hfile
      exact hfile ▸ hold
  · rcases List.mem_append.mp h with hmem | hmem
    · exact hmem
    · exact absurd (congrArg Prod.fst (List.mem_singleton.mp hmem)) hplace

/-- A file that is put where everything above is a directory makes no directory. -/
theorem isDirectory_put_of_housed (h : fs.Housed place) (content : Content) :
    (fs.put place content).isDirectory = fs.isDirectory := by
  funext directory
  rw [Bool.eq_iff_iff]
  refine ⟨fun hput => ?_, isDirectory_put place content⟩
  simp only [isDirectory, directories_put, Bool.or_eq_true, List.any_eq_true] at hput
  rcases hput with hother | ⟨file, hfile, hbelow⟩
  · simp only [isDirectory, Bool.or_eq_true, List.any_eq_true]
    exact .inl hother
  by_cases hplace : file.1 = place
  · exact h directory (hplace ▸ hbelow)
  · have hmem := mem_files_of_mem_put hfile hplace
    simp only [isDirectory, Bool.or_eq_true, List.any_eq_true]
    exact .inr ⟨file, hmem, hbelow⟩

/-! ## Paths -/

/-- The directories are the same, so that paths lead to the same places. -/
structure SamePlaces (fs later : FileSystem) : Prop where
  isDirectory : later.isDirectory = fs.isDirectory
  workingDirectory : later.workingDirectory = fs.workingDirectory

theorem samePlaces_put (h : fs.Housed place) (content : Content) :
    fs.SamePlaces (fs.put place content) where
  isDirectory := isDirectory_put_of_housed h content
  workingDirectory := workingDirectory_put fs place content

namespace SamePlaces

variable {later last : FileSystem}

theorem refl (fs : FileSystem) : fs.SamePlaces fs := ⟨rfl, rfl⟩

theorem trans (h : fs.SamePlaces later) (h' : later.SamePlaces last) : fs.SamePlaces last :=
  ⟨h'.isDirectory.trans h.isDirectory, h'.workingDirectory.trans h.workingDirectory⟩

theorem child_eq (h : fs.SamePlaces later) : later.child = fs.child := by
  funext directory name
  simp only [child, h.workingDirectory]

theorem walk?_eq (h : fs.SamePlaces later) (start : Place) (parts : List String) :
    later.walk? start parts = fs.walk? start parts := by
  induction parts generalizing start with
  | nil => rfl
  | cons part parts ih =>
    simp only [walk?, parent, h.workingDirectory, h.child_eq, h.isDirectory, ih]

theorem place?_eq (h : fs.SamePlaces later) (path : String) :
    later.place? path = fs.place? path := by
  simp only [place?, directory?, root, h.workingDirectory, h.walk?_eq, h.child_eq]

theorem target?_eq (h : fs.SamePlaces later) (path : String) :
    later.target? path = fs.target? path := by
  rw [target?, target?, h.place?_eq, h.isDirectory]

end SamePlaces

end FileSystem

/-! ## One replacement -/

/-- A replacement is all or nothing at every moment. -/
structure Replacement.Atomic (r : Replacement) (fs : FileSystem) (call : Call) : Prop where
  succeeded_iff : r.succeeded = true ↔ ∃ target, call.Reaches fs target
  /-- Success puts the text at the place that the path names, and nothing anywhere else. -/
  replaced : ∀ target, call.Reaches fs target → r.result = fs.put target (.text call.text) ∧
    ∀ place, r.result.content? place =
      if place = target then some (.text call.text) else fs.content? place
  unchanged : r.succeeded = false → r.result = fs
  /-- In the end there is no temporary file. -/
  cleaned : ∀ temporary, call.temporary? fs = some temporary → r.result.content? temporary = none
  /-- On the way there is nothing new but the temporary file. -/
  trail : ∀ state ∈ r.trail, ∃ temporary, call.temporary? fs = some temporary ∧
    state.remove temporary = fs ∧
    ∀ place, place ≠ temporary → state.content? place = fs.content? place
  /-- The path names the old content or the whole new one. -/
  destination : ∀ state ∈ r.trail ++ [r.result],
    state.read? call.path = fs.read? call.path ∨ state.read? call.path = some (.text call.text)
  places : ∀ state ∈ r.trail ++ [r.result], fs.SamePlaces state

namespace FileSystem

/-- What was put at a free place may as well have been put there later. -/
theorem put_put_of_content?_eq_none {fs : FileSystem} {place : Place}
    (h : fs.content? place = none) (content other : Content) :
    (fs.put place content).put place other = fs.put place other := by
  have hkept : (fs.files.map fun file => if file.1 = place then (place, other) else file) =
      fs.files := by
    rw [content?_eq_none_iff] at h
    exact (List.map_congr_left fun file hfile => if_neg (h file hfile)).trans (List.map_id _)
  have hfound : ((fs.put place content).content? place).isSome = true := by
    rw [content?_put, if_pos rfl, Option.isSome_some]
  rw [put, if_pos hfound]
  simp only [put, h, Option.isSome_none, Bool.false_eq_true, if_false, List.map_append, hkept,
    List.map_cons, List.map_nil, if_true]

end FileSystem

namespace Call

variable {call : Call} {fs : FileSystem}

theorem Fresh.lacks (h : call.Fresh fs) : fs.Lacks call.path call.temporaryName :=
  fun _ hdirectory => (h _ (by rw [temporary?, hdirectory, Option.map_some])).1

theorem housed_of_temporary? {temporary : Place} (h : call.temporary? fs = some temporary) :
    fs.Housed temporary := by
  obtain ⟨directory, hdirectory, rfl⟩ := Option.map_eq_some_iff.mp h
  exact FileSystem.housed_child (FileSystem.isDirectory_of_folder? hdirectory) call.temporaryName

/-- On the way the temporary file is put, with one text or another. -/
theorem exists_eq_put_of_mem_trail (h : call.Fresh fs) {state : FileSystem}
    (hstate : state ∈ (call.perform fs).trail) :
    ∃ temporary text, call.temporary? fs = some temporary ∧
      state = fs.put temporary (.text text) := by
  unfold perform FileSystem.replaceThrough at hstate
  split at hstate
  · cases hstate
  · cases hstate
  · next _ directory hdirectory hcreate =>
    have hfree := h.lacks directory hdirectory
    have htemporary : call.temporary? fs = some (fs.child directory call.temporaryName) := by
      rw [temporary?, hdirectory, Option.map_some]
    simp only [FileSystem.put_put_of_content?_eq_none hfree] at hstate
    have htwo : ∃ text, state = fs.put (fs.child directory call.temporaryName) (.text "") ∨
        state = fs.put (fs.child directory call.temporaryName) (.text text) := by
      split at hstate
      · exact ⟨_, List.mem_pair.mp hstate⟩
      · split at hstate
        · exact ⟨_, List.mem_pair.mp hstate⟩
        · exact ⟨_, List.mem_pair.mp hstate⟩
    obtain ⟨text, hcreated | hfilled⟩ := htwo
    · exact ⟨_, "", htemporary, hcreated⟩
    · exact ⟨_, text, htemporary, hfilled⟩

theorem samePlaces_of_mem_trail (h : call.Fresh fs) {state : FileSystem}
    (hstate : state ∈ (call.perform fs).trail) : fs.SamePlaces state := by
  obtain ⟨temporary, text, htemporary, rfl⟩ := exists_eq_put_of_mem_trail h hstate
  exact FileSystem.samePlaces_put (housed_of_temporary? htemporary) _

/-- Until the last step the path names what it named before. -/
theorem read?_of_mem_trail (h : call.Fresh fs) {state : FileSystem}
    (hstate : state ∈ (call.perform fs).trail) : state.read? call.path = fs.read? call.path := by
  have hsame := samePlaces_of_mem_trail h hstate
  obtain ⟨temporary, text, htemporary, rfl⟩ := exists_eq_put_of_mem_trail h hstate
  rw [FileSystem.read?, FileSystem.read?, hsame.place?_eq]
  cases hplace : fs.place? call.path with
  | none => rfl
  | some place =>
    have hother : place ≠ temporary := by
      rintro rfl
      exact (h place htemporary).2 hplace
    rw [Option.bind_some, Option.bind_some, FileSystem.content?_put, if_neg hother]

/-- A call has its effect, or it has none. -/
theorem succeeded_or_unchanged (h : call.Fresh fs) :
    (∃ target, call.Reaches fs target ∧ (call.perform fs).succeeded = true ∧
      (call.perform fs).result = fs.put target (.text call.text)) ∨
    (¬ ∃ target, call.Reaches fs target) ∧ (call.perform fs).succeeded = false ∧
      (call.perform fs).result = fs := by
  by_cases hreaches : ∃ target, call.Reaches fs target
  · obtain ⟨target, hfault, htarget⟩ := hreaches
    refine .inl ⟨target, ⟨hfault, htarget⟩, ?_⟩
    rw [perform, hfault]
    exact FileSystem.replaceThrough_of_target? h.lacks htarget call.text
  · refine .inr ⟨hreaches, FileSystem.replaceThrough_of_fault h.lacks ?_ call.text⟩
    by_contra hnot
    obtain ⟨hfault, htarget⟩ := not_or.mp hnot
    obtain ⟨target, htarget⟩ := Option.ne_none_iff_exists'.mp htarget
    exact hreaches ⟨target, not_not.mp hfault, htarget⟩

/-- A call reaches one place. -/
theorem Reaches.target_eq {place target : Place} (h : call.Reaches fs place)
    (h' : call.Reaches fs target) : place = target :=
  Option.some.inj (h.2.symm.trans h'.2)

theorem housed_of_reaches {target : Place} (h : call.Reaches fs target) : fs.Housed target :=
  FileSystem.housed_of_place? (Option.filter_eq_some_iff.mp h.2).1

theorem samePlaces_result (h : call.Fresh fs) : fs.SamePlaces (call.perform fs).result := by
  rcases succeeded_or_unchanged h with ⟨target, hreaches, -, hresult⟩ | ⟨-, -, hresult⟩
  · rw [hresult]
    exact FileSystem.samePlaces_put (housed_of_reaches hreaches) _
  · rw [hresult]
    exact .refl fs

/-- What a place holds after a call. -/
theorem content?_result (h : call.Fresh fs) (place : Place) :
    (call.perform fs).result.content? place =
      if call.Reaches fs place then some (.text call.text) else fs.content? place := by
  rcases succeeded_or_unchanged h with ⟨target, hreaches, -, hresult⟩ | ⟨hnot, -, hresult⟩
  · rw [hresult, FileSystem.content?_put]
    by_cases hplace : place = target
    · rw [if_pos hplace, if_pos (hplace ▸ hreaches)]
    · rw [if_neg hplace, if_neg fun hother => hplace (hother.target_eq hreaches)]
  · rw [hresult, if_neg fun hreaches => hnot ⟨place, hreaches⟩]

theorem atomic_perform (h : call.Fresh fs) : (call.perform fs).Atomic fs call := by
  have houtcome := succeeded_or_unchanged h
  constructor
  case succeeded_iff =>
    rcases houtcome with ⟨target, hreaches, hsucceeded, -⟩ | ⟨hnot, hfailed, -⟩
    · exact ⟨fun _ => ⟨target, hreaches⟩, fun _ => hsucceeded⟩
    · rw [hfailed]
      exact ⟨fun htrue => absurd htrue Bool.false_ne_true, fun hreaches => absurd hreaches hnot⟩
  case replaced =>
    intro target hreaches
    rcases houtcome with ⟨found, hfound, -, hresult⟩ | ⟨hnot, -, -⟩
    · obtain rfl : found = target := hfound.target_eq hreaches
      exact ⟨hresult, fun place => by rw [hresult, FileSystem.content?_put]⟩
    · exact absurd ⟨target, hreaches⟩ hnot
  case unchanged =>
    intro hfailed
    rcases houtcome with ⟨-, -, hsucceeded, -⟩ | ⟨-, -, hresult⟩
    · rw [hfailed] at hsucceeded
      cases hsucceeded
    · exact hresult
  case cleaned =>
    intro temporary htemporary
    obtain ⟨hfree, hother⟩ := h temporary htemporary
    rw [content?_result h, if_neg, hfree]
    rintro ⟨-, htarget⟩
    exact hother (Option.filter_eq_some_iff.mp htarget).1
  case trail =>
    intro state hstate
    obtain ⟨temporary, text, htemporary, rfl⟩ := exists_eq_put_of_mem_trail h hstate
    exact ⟨temporary, htemporary, FileSystem.remove_put_eq_self (h temporary htemporary).1 _,
      fun place hplace => by rw [FileSystem.content?_put, if_neg hplace]⟩
  case destination =>
    intro state hstate
    rcases List.mem_append.mp hstate with htrail | hresult
    · exact .inl (read?_of_mem_trail h htrail)
    obtain rfl := List.mem_singleton.mp hresult
    rcases houtcome with ⟨target, hreaches, -, hresult⟩ | ⟨-, -, hresult⟩
    · have hplace := (Option.filter_eq_some_iff.mp hreaches.2).1
      right
      rw [FileSystem.read?, (samePlaces_result h).place?_eq, hplace, Option.bind_some,
        content?_result h, if_pos hreaches]
    · rw [hresult]
      exact .inl rfl
  case places =>
    intro state hstate
    rcases List.mem_append.mp hstate with htrail | hresult
    · exact samePlaces_of_mem_trail h htrail
    · exact List.mem_singleton.mp hresult ▸ samePlaces_result h

/-- The name that is chosen where none is given is fresh: it is longer than the name that the path
ends with, and than all others in use. -/
theorem fresh_freshName (fs : FileSystem) (path text : String) (fault : Option Fault) :
    Call.Fresh ⟨path, text, fs.freshName path, fault⟩ fs := by
  intro place hplace
  obtain ⟨directory, hdirectory, rfl⟩ := Option.map_eq_some_iff.mp hplace
  refine ⟨fs.content?_child_freshName directory path, fun hpath => ?_⟩
  obtain ⟨other, name, hother, hlast, hchild⟩ := FileSystem.folder?_of_place? hpath
  obtain rfl : directory = other := Option.some.inj (hdirectory.symm.trans hother)
  rw [FileSystem.child_freshName] at hchild
  rcases fs.child_eq directory name with hdown | hnames
  · rw [hdown] at hchild
    obtain ⟨-, hends⟩ := Place.mk.inj hchild
    obtain ⟨hname, -⟩ := List.cons.inj (List.append_cancel_left hends)
    have hshorter := fs.length_lt_freshName_of_mem_parts (List.mem_of_getLast? hlast)
    rw [hname] at hshorter
    exact Nat.lt_irrefl _ hshorter
  · simp [← hchild] at hnames

/-- Replacements through that name are atomic. -/
theorem atomic_replace (fs : FileSystem) (path text : String) (fault : Option Fault) :
    (fs.replace path text fault).Atomic fs ⟨path, text, fs.freshName path, fault⟩ := by
  have hatomic := atomic_perform (fresh_freshName fs path text fault)
  rwa [perform, ← FileSystem.replace] at hatomic

end Call

/-! ## Histories -/

namespace FileSystem

variable {fs : FileSystem}

/-- The files after some calls. -/
def after (fs : FileSystem) (calls : List Call) : FileSystem :=
  calls.foldl (fun fs call => (call.perform fs).result) fs

/-- The calls, each with the files as it finds them. -/
def history : FileSystem → List Call → List (FileSystem × Call)
  | _, [] => []
  | fs, call :: calls => (fs, call) :: history (call.perform fs).result calls

/-- The text of the last call that puts one at a place. -/
def lastText? (fs : FileSystem) (calls : List Call) (place : Place) : Option String :=
  (calls.reverse.find? fun call => call.Reaches fs place).map Call.text

theorem lastText?_cons (fs : FileSystem) (call : Call) (calls : List Call) (place : Place) :
    fs.lastText? (call :: calls) place =
      (fs.lastText? calls place).or (if call.Reaches fs place then some call.text else none) := by
  simp only [lastText?, List.reverse_cons, List.find?_append, List.find?_singleton, Option.map_or]
  congr 1
  by_cases hreaches : call.Reaches fs place <;> simp [hreaches]

theorem SamePlaces.lastText?_eq {later : FileSystem} (h : fs.SamePlaces later) (calls : List Call)
    (place : Place) : later.lastText? calls place = fs.lastText? calls place := by
  have hreaches : ∀ call : Call, call.Reaches later place ↔ call.Reaches fs place := fun call => by
    rw [Call.Reaches, Call.Reaches, h.target?_eq]
  simp only [lastText?, hreaches]

/-- Every call of a history is atomic, whatever the calls before it have done.  Paths lead to the
same places all the time, so that every file holds in the end the text of the last call that reached
it, or what it held at the start if none did. -/
theorem history_atomic {calls : List Call}
    (h : ∀ moment ∈ fs.history calls, moment.2.Fresh moment.1) :
    (∀ moment ∈ fs.history calls, (moment.2.perform moment.1).Atomic moment.1 moment.2) ∧
      fs.SamePlaces (fs.after calls) ∧
      ∀ place, (fs.after calls).content? place =
        ((fs.lastText? calls place).map Content.text).or (fs.content? place) := by
  refine ⟨fun moment hmoment => Call.atomic_perform (h moment hmoment), ?_⟩
  induction calls generalizing fs with
  | nil => exact ⟨.refl fs, fun place => rfl⟩
  | cons call calls ih =>
    obtain ⟨hfresh, hrest⟩ := List.forall_mem_cons.mp h
    have hsame := Call.samePlaces_result hfresh
    obtain ⟨hplaces, hcontent⟩ := ih hrest
    refine ⟨hsame.trans hplaces, fun place => ?_⟩
    have hafter : fs.after (call :: calls) = (call.perform fs).result.after calls := rfl
    rw [hafter, hcontent, hsame.lastText?_eq, Call.content?_result hfresh, lastText?_cons,
      Option.map_or, Option.or_assoc]
    by_cases hreaches : call.Reaches fs place
    · rw [if_pos hreaches, if_pos hreaches, Option.map_some, Option.some_or]
    · rw [if_neg hreaches, if_neg hreaches, Option.map_none, Option.none_or]

/-- A file and an empty directory. -/
def pantry : FileSystem where
  files := [(⟨0, ["out.sql"]⟩, .text "old")]
  directories := [⟨0, ["shelf"]⟩]

/-- Replacements of which the first and the last one reach a place: the others lead to a missing
directory, to a directory and to the root, or fail when the file is partly written and when it is
renamed. -/
def errands : List Call := [
  ⟨"out.sql", "first", ".a", none⟩,
  ⟨"absent/out.sql", "lost", ".b", none⟩,
  ⟨"shelf", "lost", ".c", none⟩,
  ⟨"/", "lost", ".d", none⟩,
  ⟨"out.sql", "torn", ".e", some (.write 2)⟩,
  ⟨"out.sql", "late", ".f", some .rename⟩,
  ⟨"./shelf//new.sql", "second", ".g", none⟩]

theorem pantry_atomic :
    (∀ moment ∈ pantry.history errands, moment.2.Fresh moment.1) ∧
    (∀ moment ∈ pantry.history errands,
      (moment.2.perform moment.1).Atomic moment.1 moment.2) ∧
    (pantry.after errands).content? ⟨0, ["out.sql"]⟩ = some (.text "first") ∧
    (pantry.after errands).content? ⟨0, ["shelf", "new.sql"]⟩ = some (.text "second") := by
  have hfresh : ∀ moment ∈ pantry.history errands, moment.2.Fresh moment.1 := by decide +kernel
  obtain ⟨hatomic, -, hcontent⟩ := history_atomic hfresh
  refine ⟨hfresh, hatomic, ?_, ?_⟩
  · rw [hcontent]
    decide +kernel
  · rw [hcontent]
    decide +kernel

end FileSystem

end Conformance
