import Conformance.Proofs.Catalog.Report

set_option autoImplicit false

/-!
# One scan under three policies

Whatever the policy, a scan reads the same rows, so its three runs can be compared.  The runs that
do not reject repetitions find the same identifiers and warn at the same rows; they differ in the
definition they keep and in the wording.  The run that rejects repetitions is the same run, cut
short at the first of these warnings.  Both cases come from one question, whether an identifier
repeats (`exists_build_eq_of_nodup`, `Repeats`).
-/

namespace Conformance

namespace Issue

/-- An issue without its wording. -/
def mark (issue : Issue) : Severity × String × Option Location :=
  (issue.severity, issue.code, issue.location)

/-- The issue warns of a step that is defined again. -/
def IsRedefinition (issue : Issue) : Prop :=
  issue.severity = .warning ∧ issue.code = duplicateStepCode

instance : DecidablePred IsRedefinition := fun _ => inferInstanceAs (Decidable (_ ∧ _))

end Issue

namespace Catalog

/-- The rows that define an identifier, in scan order. -/
def definitionsOf (sheets : List Sheet) (id : String) : List SheetRow :=
  (definingRows (sheets.flatMap Sheet.dataRows)).filter fun row => row.stepId = id

/-- A scan that rejects repetitions ends at the row `second`, where the other scans warn first;
`first` is the row that defined its identifier first, and `before` what was reported till then. -/
structure StopsAtWarning (sheets : List Sheet) (first second : SheetRow) (before : List Issue) :
    Prop where
  stops : build sheets .reject =
    ⟨before, .error (.duplicateStep second.stepId first.location second.location)⟩
  defines : second ∈ definitionsOf sheets second.stepId
  definesFirst : (definitionsOf sheets second.stepId).head? = some first
  quiet : ∀ issue ∈ before, ¬ issue.IsRedefinition
  warned : ∀ policy, policy ≠ .reject → ∃ warning after,
    (build sheets policy).issues = before ++ warning :: after ∧ warning.IsRedefinition ∧
      warning.location = some second.location

/-- How the three policies treat the same sheets, where `first` and `last` are the catalogs of the
scans that keep the first and the last definition. -/
structure PoliciesAgree (sheets : List Sheet) (first last : Catalog) : Prop where
  firstWins : (build sheets .firstWins).outcome = .ok first
  lastWins : (build sheets .lastWins).outcome = .ok last
  /-- Both hold the defined identifiers in first-seen order. -/
  ids_first : first.ids =
    ((definingRows (sheets.flatMap Sheet.dataRows)).map SheetRow.stepId).eraseDups
  ids_last : last.ids = first.ids
  get?_first : ∀ id, first.get? id = (definitionsOf sheets id).head?.map SheetRow.step
  get?_last : ∀ id, last.get? id = (definitionsOf sheets id).getLast?.map SheetRow.step
  /-- Both report the same, up to the wording. -/
  marks : (build sheets .firstWins).issues.map Issue.mark =
    (build sheets .lastWins).issues.map Issue.mark
  /-- Repetitions are rejected exactly where the others warn of them. -/
  accepts : ∀ policy, policy ≠ .reject →
    ((∃ c, (build sheets .reject).outcome = .ok c) ↔
      ∀ issue ∈ (build sheets policy).issues, ¬ issue.IsRedefinition)
  /-- If nothing is rejected, catalogs and reports are the same. -/
  same : (∃ c, (build sheets .reject).outcome = .ok c) →
    ∀ policy, build sheets policy = build sheets .reject
  rejects : ∀ error, (build sheets .reject).outcome = .error error →
    ∃ first second before, StopsAtWarning sheets first second before

/-! ## Reports without repetitions -/

theorem not_isRedefinition_of_mem_blankIssues {row : SheetRow} {issue : Issue}
    (h : issue ∈ blankIssues row) : ¬ issue.IsRedefinition := by
  intro hredefinition
  rw [blankIssues] at h
  split at h
  · rw [List.mem_singleton] at h
    subst h
    cases hredefinition.1
  · cases h

theorem isRedefinition_duplicateIssue (step : TestStep) (message : String) :
    (duplicateIssue step message).IsRedefinition := ⟨rfl, rfl⟩

/-- The kept definition does not matter for what is reported, up to the wording. -/
theorem map_mark_stepIssues (earlier : List TestStep) (step : TestStep) :
    (stepIssues .firstWins earlier step).map Issue.mark =
      (stepIssues .lastWins earlier step).map Issue.mark := by
  unfold stepIssues DuplicatePolicy.keeps
  cases hsame : earlier.filter fun other => other.id = step.id with
  | nil => rfl
  | cons held rest =>
    rw [List.getLast?_eq_some_getLast (List.cons_ne_nil held rest)]
    rfl

theorem map_mark_rowIssues (earlier : List SheetRow) (row : SheetRow) :
    (rowIssues .firstWins earlier row).map Issue.mark =
      (rowIssues .lastWins earlier row).map Issue.mark := by
  unfold rowIssues
  by_cases hid : row.stepId = ""
  · rw [if_pos hid, if_pos hid]
  · rw [if_neg hid, if_neg hid, map_mark_stepIssues]

/-! ## Scans with a repetition -/

/-- The row at which an identifier repeats first, and the rows before it. -/
structure Repeats (rows : List SheetRow) (first second : SheetRow)
    (before after : List SheetRow) : Prop where
  rows : rows = before ++ second :: after
  ne : second.stepId ≠ ""
  nodup : ((definingRows before).map SheetRow.stepId).Nodup
  held : ((definingRows before).filter fun row => row.stepId = second.stepId) = [first]

theorem exists_repeats {rows : List SheetRow}
    (h : ¬ ((definingRows rows).map SheetRow.stepId).Nodup) :
    ∃ first second before after, Repeats rows first second before after := by
  obtain ⟨first, second, hrepeat⟩ := FirstSeen.exists_firstRepeat h
  obtain ⟨front, back, hdefining, hnodup, hheld⟩ := hrepeat.exists_filter_eq
  obtain ⟨before, rest, rfl, rfl, hrest⟩ := List.filter_eq_append_iff.mp hdefining
  obtain ⟨blanks, after, rfl, hblanks, hne, -⟩ := List.filter_eq_cons_iff.mp hrest
  have hnone : definingRows blanks = [] := by
    rw [definingRows, List.filter_eq_nil_iff]
    exact hblanks
  have hfront : definingRows (before ++ blanks) = definingRows before := by
    rw [definingRows_append, hnone, List.append_nil]
  refine ⟨first, second, before ++ blanks, after, by simp, by simpa using hne, ?_, ?_⟩
  · rw [hfront]
    exact hnodup
  · rw [hfront]
    exact hheld

namespace Repeats

variable {sheets : List Sheet} {first second : SheetRow} {before after : List SheetRow}

/-- The report up to the repetition, and the warning there. -/
theorem issues_build (h : Repeats (sheets.flatMap Sheet.dataRows) first second before after)
    {policy : DuplicatePolicy} (hpolicy : policy ≠ .reject) :
    ∃ warning later, (build sheets policy).issues = before.flatMap blankIssues ++ warning :: later ∧
      warning.IsRedefinition ∧ warning.location = some second.location := by
  obtain ⟨c, hbuild, -⟩ := exists_build_eq policy sheets fun hreject => absurd hreject hpolicy
  obtain ⟨message, hmessage⟩ := exists_redefinitionIssues_eq hpolicy first.step second.step
  have hwarning : rowIssues policy before second = [duplicateIssue second.step message] := by
    rw [rowIssues, if_neg h.ne, stepIssues, filter_map_step, SheetRow.id_step, h.held,
      List.map_singleton, DuplicatePolicy.keeps_singleton]
    exact hmessage
  refine ⟨duplicateIssue second.step message,
    Report.running (rowIssues policy) (before ++ [second]) after, ?_,
    isRedefinition_duplicateIssue _ _, rfl⟩
  rw [hbuild, h.rows, Report.running_append, Report.running, running_rowIssues_of_nodup h.nodup,
    List.nil_append, hwarning, List.singleton_append]

/-- The scan that rejects repetitions ends there. -/
theorem build_reject (h : Repeats (sheets.flatMap Sheet.dataRows) first second before after) :
    build sheets .reject = ⟨before.flatMap blankIssues,
      .error (.duplicateStep second.stepId first.location second.location)⟩ := by
  obtain ⟨c, hrows, hholds⟩ := exists_addRows_empty_eq .reject before fun _ => h.nodup
  have hheld : c.get? second.step.id = some first.step := by
    rw [hholds.get?, filter_map_step, SheetRow.id_step, h.held, List.map_singleton,
      DuplicatePolicy.keeps_singleton]
  have hstop : addRow .reject c second =
      .fail (.duplicateStep second.stepId first.location second.location) := by
    rw [addRow_of_stepId_ne .reject c h.ne, insert_reject hheld]
    rfl
  have hbefore : (addRows .reject empty before).outcome = .ok c := by rw [hrows]
  rw [build, h.rows, addRows_append_of_eq_ok hbefore, hrows, addRows, hstop, Audit.fail_bind,
    running_rowIssues_of_nodup h.nodup]
  simp [Audit.fail]

theorem stopsAtWarning (h : Repeats (sheets.flatMap Sheet.dataRows) first second before after) :
    StopsAtWarning sheets first second (before.flatMap blankIssues) where
  stops := h.build_reject
  defines := by
    rw [definitionsOf, h.rows, List.mem_filter, definingRows, List.mem_filter]
    simp [h.ne]
  definesFirst := by
    rw [definitionsOf, h.rows, definingRows_append, List.filter_append, h.held]
    rfl
  quiet := by
    intro issue hissue
    obtain ⟨row, -, hrow⟩ := List.mem_flatMap.mp hissue
    exact not_isRedefinition_of_mem_blankIssues hrow
  warned _ hpolicy := h.issues_build hpolicy

end Repeats

/-! ## The policies compared -/

/-- The definitions of an identifier in a catalog are the rows that define it. -/
theorem Holds.get?_eq_map {policy : DuplicatePolicy} {sheets : List Sheet} {c : Catalog}
    (h : c.Holds policy ((definingRows (sheets.flatMap Sheet.dataRows)).map SheetRow.step))
    (id : String) : c.get? id = (policy.keeps (definitionsOf sheets id)).map SheetRow.step := by
  rw [h.get?, filter_map_step, DuplicatePolicy.keeps_map, definitionsOf]

/-- A scan that rejects repetitions either does what the others do, without a warning, or ends
where they warn first. -/
theorem build_reject_cases (sheets : List Sheet) :
    (∃ c, ∀ policy, build sheets policy =
        ⟨(sheets.flatMap Sheet.dataRows).flatMap blankIssues, .ok c⟩) ∨
      ∃ first second before, StopsAtWarning sheets first second before := by
  by_cases hdistinct :
      ((definingRows (sheets.flatMap Sheet.dataRows)).map SheetRow.stepId).Nodup
  · obtain ⟨c, -, hall⟩ := exists_build_eq_of_nodup hdistinct
    exact Or.inl ⟨c, hall⟩
  · obtain ⟨first, second, before, after, hrepeats⟩ := exists_repeats hdistinct
    exact Or.inr ⟨first, second, _, hrepeats.stopsAtWarning⟩

/-- The policies that do not reject repetitions find the same identifiers and report the same up
to the wording, each keeping its definition; the one that rejects them either agrees with both in
everything or stops at their first warning. -/
theorem build_policies_agree (sheets : List Sheet) :
    ∃ first last, PoliciesAgree sheets first last := by
  obtain ⟨first, hfirst, hfirstHolds⟩ := exists_build_eq .firstWins sheets nofun
  obtain ⟨last, hlast, hlastHolds⟩ := exists_build_eq .lastWins sheets nofun
  refine ⟨first, last, ?_⟩
  constructor
  case firstWins => rw [hfirst]
  case lastWins => rw [hlast]
  case ids_first => rw [hfirstHolds.ids, List.map_map, SheetRow.id_comp_step]
  case ids_last => rw [hlastHolds.ids, hfirstHolds.ids]
  case get?_first => exact hfirstHolds.get?_eq_map
  case get?_last => exact hlastHolds.get?_eq_map
  case marks =>
    rw [hfirst, hlast, Report.map_running, Report.map_running]
    simp only [map_mark_rowIssues]
  -- the rest depends on whether an identifier repeats
  case accepts =>
    intro policy hpolicy
    rcases build_reject_cases sheets with ⟨c, hall⟩ | ⟨first, second, before, hstop⟩
    · rw [hall, hall]
      refine ⟨fun _ issue hissue => ?_, fun _ => ⟨c, rfl⟩⟩
      obtain ⟨row, -, hrow⟩ := List.mem_flatMap.mp hissue
      exact not_isRedefinition_of_mem_blankIssues hrow
    · obtain ⟨warning, after, hissues, hwarning, -⟩ := hstop.warned policy hpolicy
      constructor
      · rintro ⟨c, hc⟩
        rw [hstop.stops] at hc
        cases hc
      · intro hquiet
        exact absurd hwarning (hquiet warning (by simp [hissues]))
  case same =>
    rintro ⟨c, hc⟩ policy
    rcases build_reject_cases sheets with ⟨c, hall⟩ | ⟨first, second, before, hstop⟩
    · rw [hall, hall]
    · rw [hstop.stops] at hc
      cases hc
  case rejects =>
    intro error herror
    rcases build_reject_cases sheets with ⟨c, hall⟩ | hstop
    · rw [hall] at herror
      cases herror
    · exact hstop

end Catalog

end Conformance
