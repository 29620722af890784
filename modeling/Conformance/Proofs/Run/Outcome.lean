import Conformance.Proofs.Files.Replacement
import Conformance.Run

set_option autoImplicit false

/-!
# The outcome of a run

A run either stops before its workbook is converted (`Args.Stops`) or converts it
(`Args.Converts`), and what it reports follows from that.  Once the script is made, what is left is
to write it.  So a run either succeeds (`FileSystem.Succeeds`) or is halted by the first stage that
fails (`FileSystem.Halts`); the stage decides the exit status, and a run that is halted has written
nothing.
-/

namespace Conformance

/-! ## Stages -/

namespace Args

/-- The schema, the options and the workbook of a run, where all three can be read. -/
structure Loads (args : Args) (sources : Sources) (schema : Schema) (options : Options)
    (wb : Workbook) : Prop where
  schema : sources.schema args.schema = .ok schema
  options : sources.options args = .ok options
  workbook : sources.workbook args.input = .ok wb

/-- The workbook of a run is converted. -/
def Converts (args : Args) (sources : Sources) (schema : Schema) (conversion : Conversion) :
    Prop :=
  ∃ options wb, args.Loads sources schema options wb ∧ convert wb options = .ok conversion

/-- A run gets as far as its script. -/
def Produces (args : Args) (sources : Sources) (script : String) : Prop :=
  ∃ schema conversion, args.Converts sources schema conversion ∧
    conversion.dataset.script schema args.header = .ok script

/-- What ends a run before its workbook is converted. -/
inductive Stops (args : Args) (sources : Sources) : RunError → Prop where
  | schema {error : RunError} (hschema : sources.schema args.schema = .error error) :
      Stops args sources error
  | options {schema : Schema} {error : RunError}
      (hschema : sources.schema args.schema = .ok schema)
      (hoptions : sources.options args = .error error) : Stops args sources error
  | workbook {schema : Schema} {options : Options} {error : RunError}
      (hschema : sources.schema args.schema = .ok schema)
      (hoptions : sources.options args = .ok options)
      (hworkbook : sources.workbook args.input = .error error) : Stops args sources error
  | conversion {schema : Schema} {options : Options} {wb : Workbook} {cause : ConvertError}
      (hloads : args.Loads sources schema options wb)
      (hconvert : convert wb options = .error cause) :
      Stops args sources (.ofConvert args.input cause)

/-- The workbook is at fault: everything has been read, but the workbook cannot be converted, for
another reason than its layout, or its tables cannot be written as a script. -/
def WorkbookAtFault (args : Args) (sources : Sources) : Prop :=
  ∃ schema options wb, args.Loads sources schema options wb ∧
    ((∃ cause, convert wb options = .error cause ∧ ∀ error, cause ≠ .layout error) ∨
      ∃ conversion cause, convert wb options = .ok conversion ∧
        conversion.dataset.script schema args.header = .error cause)

end Args

namespace FileSystem

/-- A file can be written under the path: it names a place that is not a directory, and no fault
befalls the writing. -/
def Takes (fs : FileSystem) (path : String) (fault : Option Fault) : Prop :=
  fault = none ∧ ∃ place, fs.target? path = some place

/-- Every stage of a run succeeds, the writing of its script included. -/
def Succeeds (fs : FileSystem) (args : Args) (fault : Option Fault) (script : String) : Prop :=
  args.Produces fs.sources script ∧ ∀ path, args.output = some path → fs.Takes path fault

/-- The first stage of a run that fails. -/
inductive Halts (fs : FileSystem) (args : Args) (fault : Option Fault) : RunError → Prop where
  | stops {error : RunError} (hstops : args.Stops fs.sources error) : Halts fs args fault error
  | unexportable {schema : Schema} {conversion : Conversion} {cause : ExportError}
      (hconverts : args.Converts fs.sources schema conversion)
      (hscript : conversion.dataset.script schema args.header = .error cause) :
      Halts fs args fault (.unexportable cause)
  | unwritable {script path : String} (hproduces : args.Produces fs.sources script)
      (houtput : args.output = some path) (htakes : ¬ fs.Takes path fault) :
      Halts fs args fault (.unwritable path)

end FileSystem

namespace Outcome

/-- The script is where it was to go, and nothing else has changed. -/
def Delivers (outcome : Outcome) (fs : FileSystem) (script : String) : Option String → Prop
  | none => outcome.stdout = script ∧ outcome.files = fs
  | some path => outcome.stdout = "" ∧ outcome.files.readText? path = some script ∧
      ∃ place, fs.place? path = some place ∧
        ∀ other, other ≠ place → outcome.files.content? other = fs.content? other

/-- The lines on the failure, after those on the issues. -/
def failureLines (outcome : Outcome) : List String := (outcome.failure.map RunError.line).toList

/-- A run is all or nothing, and its status tells what kept it from succeeding. -/
structure AllOrNothing (fs : FileSystem) (args : Args) (fault : Option Fault) (outcome : Outcome) :
    Prop where
  /-- The first stage that fails decides. -/
  failure_eq_some_iff : ∀ error, outcome.failure = some error ↔ fs.Halts args fault error
  status_eq_zero_iff : outcome.status = 0 ↔ ∃ script, fs.Succeeds args fault script
  status_eq_one_iff : outcome.status = 1 ↔ args.WorkbookAtFault fs.sources
  status_eq_other_iff : outcome.status = 66 ↔
    (¬ ∃ script, fs.Succeeds args fault script) ∧ ¬ args.WorkbookAtFault fs.sources
  delivers : ∀ script, fs.Succeeds args fault script → outcome.Delivers fs script args.output
  unchanged : outcome.status ≠ 0 → outcome.stdout = "" ∧ outcome.files = fs
  /-- The issues of a converted workbook are reported, whatever follows. -/
  reported : ∀ schema conversion, args.Converts fs.sources schema conversion →
    args.quiet = false →
      outcome.diagnostics = conversion.issues.map Issue.line ++ outcome.failureLines
  silent : (args.quiet = true ∨ ¬ ∃ schema conversion, args.Converts fs.sources schema conversion) →
    outcome.diagnostics = outcome.failureLines

end Outcome

/-! ## Reports -/

namespace Args

variable {args : Args} {sources : Sources} {schema : Schema} {conversion : Conversion}
  {script : String} {error : RunError}

/-- One of the two is always the case. -/
theorem converts_or_stops (args : Args) (sources : Sources) :
    (∃ schema conversion, args.Converts sources schema conversion) ∨
      ∃ error, args.Stops sources error := by
  cases hschema : sources.schema args.schema with
  | error error => exact .inr ⟨error, .schema hschema⟩
  | ok schema =>
    cases hoptions : sources.options args with
    | error error => exact .inr ⟨error, .options hschema hoptions⟩
    | ok options =>
      cases hworkbook : sources.workbook args.input with
      | error error => exact .inr ⟨error, .workbook hschema hoptions hworkbook⟩
      | ok wb =>
        have hloads : args.Loads sources schema options wb := ⟨hschema, hoptions, hworkbook⟩
        cases hconvert : convert wb options with
        | error cause => exact .inr ⟨_, .conversion hloads hconvert⟩
        | ok conversion => exact .inl ⟨schema, conversion, options, wb, hloads, hconvert⟩

theorem report_of_converts (h : args.Converts sources schema conversion) :
    args.report sources = {
      issues := if args.quiet then [] else conversion.issues
      script := (conversion.dataset.script schema args.header).mapError .unexportable } := by
  obtain ⟨options, wb, hloads, hconvert⟩ := h
  simp only [report, hloads.schema, hloads.options, hloads.workbook, bind, Except.bind, hconvert,
    Except.mapError, pure, Except.pure]

theorem report_of_stops (h : args.Stops sources error) :
    args.report sources = { script := .error error } := by
  cases h with
  | schema hschema => simp only [report, hschema, bind, Except.bind]
  | options hschema hoptions => simp only [report, hschema, hoptions, bind, Except.bind]
  | workbook hschema hoptions hworkbook =>
    simp only [report, hschema, hoptions, hworkbook, bind, Except.bind]
  | conversion hloads hconvert =>
    simp only [report, hloads.schema, hloads.options, hloads.workbook, bind, Except.bind, hconvert,
      Except.mapError]

theorem script_of_produces (h : args.Produces sources script) :
    (args.report sources).script = .ok script := by
  obtain ⟨schema, conversion, hconverts, hscript⟩ := h
  rw [report_of_converts hconverts, hscript]
  rfl

end Args

/-! ## Exit statuses -/

namespace RunError

variable {error : RunError}

theorem status_eq_one_or (error : RunError) : error.status = 1 ∨ error.status = 66 := by
  cases error <;> simp [status]

theorem status_ofConvert_eq_one_iff (path : String) (cause : ConvertError) :
    (ofConvert path cause).status = 1 ↔ ∀ error, cause ≠ .layout error := by
  cases cause <;> simp [ofConvert, status]

end RunError

namespace Sources

variable {sources : Sources} {error : RunError}

theorem status_of_schema {path : Option String} (h : sources.schema path = .error error) :
    error.status = 66 := by
  unfold schema at h
  split at h
  · cases h
  · split at h
    · cases h
      rfl
    · next text htext =>
      cases hschema : Schema.ofText text with
      | ok schema => simp [hschema, Except.mapError] at h
      | error cause =>
        simp only [hschema, Except.mapError, Except.error.injEq] at h
        rw [← h]
        rfl

theorem status_of_options {args : Args} (h : sources.options args = .error error) :
    error.status = 66 := by
  unfold options at h
  cases hsettings : sources.settings args.layout with
  | ok settings => simp [hsettings, Except.map] at h
  | error cause =>
    simp only [hsettings, Except.map, Except.error.injEq] at h
    subst h
    unfold settings at hsettings
    split at hsettings
    · cases hsettings
    · split at hsettings
      · cases hsettings
        rfl
      · split at hsettings <;> cases hsettings
        rfl

theorem status_of_workbook {path : String} (h : sources.workbook path = .error error) :
    error.status = 66 := by
  unfold workbook at h
  split at h
  · cases h
    rfl
  · split at h <;> cases h
    rfl

end Sources

/-! ## Writing -/

namespace FileSystem

variable {fs : FileSystem} {args : Args} {fault : Option Fault} {path script : String}
  {error : RunError}

theorem store_of_takes (h : fs.Takes path fault) (script : String) :
    ∃ target, fs.target? path = some target ∧
      fs.store path script fault = (fs.put target (.text script), none) := by
  obtain ⟨rfl, target, htarget⟩ := h
  have hreplace := replace_of_target? htarget script
  exact ⟨target, htarget, by simp only [store, hreplace, if_pos]⟩

theorem store_of_not_takes (h : ¬ fs.Takes path fault) (script : String) :
    fs.store path script fault = (fs, some (.unwritable path)) := by
  have hfault : fault ≠ none ∨ fs.target? path = none := by
    by_contra! hboth
    exact h ⟨hboth.1, Option.ne_none_iff_exists'.mp hboth.2⟩
  have hreplace := replace_of_fault hfault script
  simp [store, hreplace]

/-! ## Runs -/

/-- One of the two is always the case. -/
theorem succeeds_or_halts (fs : FileSystem) (args : Args) (fault : Option Fault) :
    (∃ script, fs.Succeeds args fault script) ∨ ∃ error, fs.Halts args fault error := by
  obtain ⟨schema, conversion, hconverts⟩ | ⟨error, hstops⟩ := args.converts_or_stops fs.sources
  · cases hscript : conversion.dataset.script schema args.header with
    | error cause => exact .inr ⟨_, .unexportable hconverts hscript⟩
    | ok script =>
      have hproduces : args.Produces fs.sources script := ⟨schema, conversion, hconverts, hscript⟩
      by_cases hwrites : ∀ path, args.output = some path → fs.Takes path fault
      · exact .inl ⟨script, hproduces, hwrites⟩
      · push Not at hwrites
        obtain ⟨path, houtput, htakes⟩ := hwrites
        exact .inr ⟨_, .unwritable hproduces houtput htakes⟩
  · exact .inr ⟨error, .stops hstops⟩

theorem issues_run (fs : FileSystem) (args : Args) (fault : Option Fault) :
    (fs.run args fault).issues = (args.report fs.sources).issues := by
  unfold run
  dsimp only
  split <;> rfl

/-- A run whose script cannot be made writes nothing. -/
theorem run_of_script_eq_error (h : (args.report fs.sources).script = .error error) :
    fs.run args fault = ⟨(args.report fs.sources).issues, some error, "", fs⟩ := by
  simp only [run, h]

/-- A run that is halted has written nothing. -/
theorem run_of_halts (h : fs.Halts args fault error) :
    (fs.run args fault).failure = some error ∧ (fs.run args fault).stdout = "" ∧
      (fs.run args fault).files = fs := by
  cases h with
  | stops hstops =>
    rw [run_of_script_eq_error (congrArg Report.script (Args.report_of_stops hstops))]
    exact ⟨rfl, rfl, rfl⟩
  | unexportable hconverts hscript =>
    have hreport := congrArg Report.script (Args.report_of_converts hconverts)
    rw [hscript] at hreport
    rw [run_of_script_eq_error hreport]
    exact ⟨rfl, rfl, rfl⟩
  | unwritable hproduces houtput htakes =>
    simp only [run, Args.script_of_produces hproduces, houtput, store_of_not_takes htakes, and_self]

theorem run_of_succeeds (h : fs.Succeeds args fault script) :
    (fs.run args fault).failure = none ∧ (fs.run args fault).Delivers fs script args.output := by
  obtain ⟨hproduces, hwrites⟩ := h
  have hscript := Args.script_of_produces hproduces
  cases houtput : args.output with
  | none => simp only [run, hscript, houtput, Outcome.Delivers, and_self]
  | some path =>
    obtain ⟨target, htarget, hstore⟩ := store_of_takes (hwrites path houtput) script
    obtain ⟨hplace, -⟩ := Option.filter_eq_some_iff.mp htarget
    simp only [run, hscript, houtput, hstore, Outcome.Delivers, true_and]
    refine ⟨readText?_put hplace script, target, hplace, fun other hother => ?_⟩
    rw [content?_put, if_neg hother]

theorem failure_run_eq_some_iff :
    (fs.run args fault).failure = some error ↔ fs.Halts args fault error := by
  refine ⟨fun hfailure => ?_, fun h => (run_of_halts h).1⟩
  obtain ⟨script, hsucceeds⟩ | ⟨first, hhalts⟩ := fs.succeeds_or_halts args fault
  · rw [(run_of_succeeds hsucceeds).1] at hfailure
    cases hfailure
  · rw [(run_of_halts hhalts).1] at hfailure
    rwa [← Option.some.inj hfailure]

theorem status_run_of_succeeds (h : fs.Succeeds args fault script) :
    (fs.run args fault).status = 0 := by
  rw [Outcome.status, (run_of_succeeds h).1]
  rfl

theorem status_run_of_halts (h : fs.Halts args fault error) :
    (fs.run args fault).status = error.status := by
  rw [Outcome.status, (run_of_halts h).1]

/-! ## The status of a run -/

theorem exists_halts_of_workbookAtFault (fault : Option Fault)
    (h : args.WorkbookAtFault fs.sources) :
    ∃ error, fs.Halts args fault error ∧ error.status = 1 := by
  obtain ⟨schema, options, wb, hloads, ⟨cause, hconvert, hcause⟩ | ⟨conversion, cause, hconvert,
    hscript⟩⟩ := h
  · have hstatus := (RunError.status_ofConvert_eq_one_iff args.input cause).mpr hcause
    exact ⟨_, .stops (.conversion hloads hconvert), hstatus⟩
  · exact ⟨_, .unexportable ⟨options, wb, hloads, hconvert⟩ hscript, rfl⟩

theorem Halts.workbookAtFault (h : fs.Halts args fault error) (hstatus : error.status = 1) :
    args.WorkbookAtFault fs.sources := by
  cases h with
  | stops hstops =>
    cases hstops with
    | schema hschema => simp [Sources.status_of_schema hschema] at hstatus
    | options _ hoptions => simp [Sources.status_of_options hoptions] at hstatus
    | workbook _ _ hworkbook => simp [Sources.status_of_workbook hworkbook] at hstatus
    | conversion hloads hconvert =>
      have hcause := (RunError.status_ofConvert_eq_one_iff args.input _).mp hstatus
      exact ⟨_, _, _, hloads, .inl ⟨_, hconvert, hcause⟩⟩
  | unexportable hconverts hscript =>
    obtain ⟨options, wb, hloads, hconvert⟩ := hconverts
    exact ⟨_, options, wb, hloads, .inr ⟨_, _, hconvert, hscript⟩⟩
  | unwritable => cases hstatus

theorem status_run_eq_zero_iff :
    (fs.run args fault).status = 0 ↔ ∃ script, fs.Succeeds args fault script := by
  refine ⟨fun hstatus => ?_, fun ⟨script, hsucceeds⟩ => status_run_of_succeeds hsucceeds⟩
  obtain hsucceeds | ⟨error, hhalts⟩ := fs.succeeds_or_halts args fault
  · exact hsucceeds
  · rw [status_run_of_halts hhalts] at hstatus
    have hcases := error.status_eq_one_or
    omega

theorem status_run_eq_one_iff :
    (fs.run args fault).status = 1 ↔ args.WorkbookAtFault fs.sources := by
  constructor
  · intro hstatus
    obtain ⟨script, hsucceeds⟩ | ⟨error, hhalts⟩ := fs.succeeds_or_halts args fault
    · rw [status_run_of_succeeds hsucceeds] at hstatus
      cases hstatus
    · rw [status_run_of_halts hhalts] at hstatus
      exact hhalts.workbookAtFault hstatus
  · intro hfault
    obtain ⟨error, hhalts, hstatus⟩ := exists_halts_of_workbookAtFault fault hfault
    rw [status_run_of_halts hhalts, hstatus]

theorem status_run_mem (fs : FileSystem) (args : Args) (fault : Option Fault) :
    (fs.run args fault).status ∈ [0, 1, 66] := by
  obtain ⟨script, hsucceeds⟩ | ⟨error, hhalts⟩ := fs.succeeds_or_halts args fault
  · simp [status_run_of_succeeds hsucceeds]
  · rw [status_run_of_halts hhalts]
    obtain hstatus | hstatus := error.status_eq_one_or <;> simp [hstatus]

theorem status_run_eq_other_iff :
    (fs.run args fault).status = 66 ↔
      (¬ ∃ script, fs.Succeeds args fault script) ∧ ¬ args.WorkbookAtFault fs.sources := by
  have hone : (fs.run args fault).status = 1 ↔ args.WorkbookAtFault fs.sources :=
    status_run_eq_one_iff
  rw [← status_run_eq_zero_iff, ← hone]
  have hmem := fs.status_run_mem args fault
  simp only [List.mem_cons, List.not_mem_nil, or_false] at hmem
  omega

/-- A run is all or nothing: the first stage that fails decides the status, and a run that fails
leaves the files and the standard output alone. -/
theorem run_allOrNothing (fs : FileSystem) (args : Args) (fault : Option Fault) :
    (fs.run args fault).AllOrNothing fs args fault where
  failure_eq_some_iff _ := failure_run_eq_some_iff
  status_eq_zero_iff := status_run_eq_zero_iff
  status_eq_one_iff := status_run_eq_one_iff
  status_eq_other_iff := status_run_eq_other_iff
  delivers _ hsucceeds := (run_of_succeeds hsucceeds).2
  unchanged hstatus := by
    obtain ⟨script, hsucceeds⟩ | ⟨error, hhalts⟩ := fs.succeeds_or_halts args fault
    · exact absurd (status_run_of_succeeds hsucceeds) hstatus
    · exact (run_of_halts hhalts).2
  reported schema conversion hconverts hquiet := by
    rw [Outcome.diagnostics, issues_run, Args.report_of_converts hconverts, hquiet]
    rfl
  silent hnone := by
    have hissues : (fs.run args fault).issues = [] := by
      rw [issues_run]
      obtain ⟨schema, conversion, hconverts⟩ | ⟨error, hstops⟩ := args.converts_or_stops fs.sources
      · have hquiet : args.quiet = true :=
          hnone.resolve_right fun hconvert => hconvert ⟨schema, conversion, hconverts⟩
        rw [Args.report_of_converts hconverts, hquiet]
        rfl
      · rw [Args.report_of_stops hstops]
    rw [Outcome.diagnostics, hissues]
    rfl

end FileSystem

end Conformance
