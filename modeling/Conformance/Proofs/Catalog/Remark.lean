import Conformance.Proofs.Catalog.Policies

set_option autoImplicit false

/-!
# What is said about a row of a category sheet

`Catalog.Remark` says, in terms of the rows scanned before it, what is reported on a row of a
category sheet: content without an identifier is noted, and a row that defines an identifier again
is warned about, naming the row whose definition was held till then.  A scan that no repetition ends
reports just this on every row (`covers_remark_iff`).

Each row with an identifier is accounted for by it: either it defines an identifier that is new, or
it is warned about (`Remark.count`).  So over a whole scan the rows with an identifier are as many as
the identifiers and the warnings together (`count_of_covers`).
-/

namespace Conformance

/-- Only rows with the same identifier count as definitions of it. -/
theorem filter_definingRows {id : String} (h : id ≠ "") (rows : List SheetRow) :
    ((definingRows rows).filter fun row => row.stepId = id) =
      rows.filter fun row => row.stepId = id := by
  rw [definingRows, List.filter_filter]
  apply List.filter_congr
  intro row _
  by_cases hid : row.stepId = id
  · simp [hid, h]
  · simp [hid]

namespace Catalog

/-- What is said about a row of a category sheet, after the rows scanned before it. -/
inductive Remark (policy : DuplicatePolicy) (earlier : List SheetRow) (row : SheetRow) :
    List Issue → Prop where
  /-- Content without an identifier is noted. -/
  | content (hid : row.stepId = "") (hcontent : row.cells.hasContent = true) :
      Remark policy earlier row
        [{ severity := .info
           code := Issue.blankStepRowCode
           message := "row has content but no step identifier; skipped"
           location := some row.location }]
  /-- A row without any content is passed over. -/
  | nothing (hid : row.stepId = "") (hcontent : row.cells.hasContent = false) :
      Remark policy earlier row []
  /-- Nothing is said about the first definition of an identifier. -/
  | new (hid : row.stepId ≠ "") (hnew : ∀ other ∈ earlier, other.stepId ≠ row.stepId) :
      Remark policy earlier row []
  /-- Where the first definition is kept, it is the one that is named. -/
  | ignored {before after : List SheetRow} {held : SheetRow} (hpolicy : policy = .firstWins)
      (hid : row.stepId ≠ "") (hearlier : earlier = before ++ held :: after)
      (hfirst : ∀ other ∈ before, other.stepId ≠ row.stepId) (hheld : held.stepId = row.stepId) :
      Remark policy earlier row
        [{ severity := .warning
           code := Issue.duplicateStepCode
           message := s!"step '{row.stepId}' redefined; {row.location.text} ignored in favour of " ++
             held.location.text
           location := some row.location }]
  /-- Where the last definition is kept, the one just before is named. -/
  | replaces {before after : List SheetRow} {held : SheetRow} (hpolicy : policy = .lastWins)
      (hid : row.stepId ≠ "") (hearlier : earlier = before ++ held :: after)
      (hheld : held.stepId = row.stepId) (hlast : ∀ other ∈ after, other.stepId ≠ row.stepId) :
      Remark policy earlier row
        [{ severity := .warning
           code := Issue.duplicateStepCode
           message := s!"step '{row.stepId}' redefined; {row.location.text} replaces " ++
             held.location.text
           location := some row.location }]

variable {policy : DuplicatePolicy} {earlier rows : List SheetRow} {row : SheetRow}

/-! ## The report makes these remarks -/

theorem stepIssues_eq (hid : row.stepId ≠ "") :
    stepIssues policy ((definingRows earlier).map SheetRow.step) row.step =
      match policy.keeps (earlier.filter fun other => other.stepId = row.stepId) with
      | none => []
      | some held => redefinitionIssues policy held.step row.step := by
  rw [stepIssues, filter_map_step, SheetRow.id_step, filter_definingRows hid,
    DuplicatePolicy.keeps_map]
  cases policy.keeps (earlier.filter fun other => other.stepId = row.stepId) <;> rfl

/-- Something can be said about a row, unless it repeats a rejected identifier. -/
theorem exists_remark (hdistinct : policy = .reject →
      row.stepId ∉ (definingRows earlier).map SheetRow.stepId) :
    ∃ said, Remark policy earlier row said := by
  by_cases hid : row.stepId = ""
  · cases hcontent : row.cells.hasContent with
    | true => exact ⟨_, .content hid hcontent⟩
    | false => exact ⟨_, .nothing hid hcontent⟩
  · by_cases hnew : ∀ other ∈ earlier, other.stepId ≠ row.stepId
    · exact ⟨_, .new hid hnew⟩
    -- an earlier row has the identifier: the policy says which of these rows is named
    · obtain ⟨before, first, after, hearlier, hbefore, hfirst⟩ := FirstSeen.exists_first_not hnew
      rw [not_not] at hfirst
      cases policy with
      | reject =>
        refine absurd (List.mem_map.mpr ⟨first, ?_, hfirst⟩) (hdistinct rfl)
        rw [definingRows, List.mem_filter, hearlier]
        exact ⟨by simp, by simpa [hfirst] using hid⟩
      | firstWins => exact ⟨_, .ignored rfl hid hearlier hbefore hfirst⟩
      | lastWins =>
        obtain ⟨front, last, back, hearlier, hlast, hback⟩ := FirstSeen.exists_last_not hnew
        exact ⟨_, .replaces rfl hid hearlier (not_not.mp hlast) hback⟩

/-- No row has the identifier. -/
theorem filter_stepId_eq_nil {id : String} (h : ∀ other ∈ rows, other.stepId ≠ id) :
    (rows.filter fun other => other.stepId = id) = [] := by
  simpa [List.filter_eq_nil_iff] using h

/-- What can be said about a row is what is reported on it. -/
theorem Remark.eq_rowIssues {said : List Issue} (h : Remark policy earlier row said) :
    said = rowIssues policy earlier row := by
  cases h with
  | content hid hcontent =>
    rw [rowIssues, if_pos hid, blankIssues, if_pos ⟨hid, hcontent⟩]
    rfl
  | nothing hid hcontent =>
    rw [rowIssues, if_pos hid, blankIssues, if_neg (by simp [hcontent])]
  | new hid hnew =>
    rw [rowIssues, if_neg hid, stepIssues_eq hid, filter_stepId_eq_nil hnew,
      DuplicatePolicy.keeps_nil]
  | @ignored before after held hpolicy hid hearlier hfirst hheld =>
    have hkept : DuplicatePolicy.firstWins.keeps
        (earlier.filter fun other => other.stepId = row.stepId) = some held := by
      rw [hearlier, List.filter_append, filter_stepId_eq_nil hfirst,
        List.filter_cons_of_pos (by simpa using hheld)]
      rfl
    rw [rowIssues, if_neg hid, stepIssues_eq hid, hpolicy, hkept]
    rfl
  | @replaces before after held hpolicy hid hearlier hheld hlast =>
    have hkept : DuplicatePolicy.lastWins.keeps
        (earlier.filter fun other => other.stepId = row.stepId) = some held := by
      rw [hearlier, List.filter_append, List.filter_cons_of_pos (by simpa using hheld),
        filter_stepId_eq_nil hlast, DuplicatePolicy.keeps_lastWins_concat]
    rw [rowIssues, if_neg hid, stepIssues_eq hid, hpolicy, hkept]
    rfl

/-- A whole scan, where a rejected identifier is not repeated, makes these remarks and no others. -/
theorem covers_remark_iff (hdistinct : policy = .reject →
      ((definingRows rows).map SheetRow.stepId).Nodup) {report : List Issue} :
    Report.Covers (Remark policy) [] rows report ↔
      report = Report.running (rowIssues policy) [] rows := by
  refine Report.covers_iff fun before row after hrows said => ⟨Remark.eq_rowIssues, ?_⟩
  rintro rfl
  obtain ⟨said, hremark⟩ : ∃ said, Remark policy ([] ++ before) row said := by
    refine exists_remark fun hpolicy => ?_
    have hnodup := hdistinct hpolicy
    rw [hrows] at hnodup
    exact notMem_of_nodup hnodup
  rwa [← hremark.eq_rowIssues]

/-! ## Rows, identifiers and warnings -/

/-- The number of identifiers that rows define. -/
def identifierCount (rows : List SheetRow) : Nat :=
  ((definingRows rows).map SheetRow.stepId).eraseDups.length

theorem identifierCount_concat_of_stepId_eq (h : row.stepId = "") (rows : List SheetRow) :
    identifierCount (rows ++ [row]) = identifierCount rows := by
  rw [identifierCount, definingRows_append, definingRows_singleton_eq_nil h, List.append_nil,
    identifierCount]

theorem identifierCount_concat_of_new (hid : row.stepId ≠ "")
    (hnew : ∀ other ∈ rows, other.stepId ≠ row.stepId) :
    identifierCount (rows ++ [row]) = identifierCount rows + 1 := by
  have hnotMem : row.stepId ∉ (definingRows rows).map SheetRow.stepId := by
    intro hmem
    obtain ⟨other, hother, hsame⟩ := List.mem_map.mp hmem
    exact hnew other (List.mem_filter.mp hother).1 hsame
  rw [identifierCount, definingRows_append, definingRows_singleton hid, List.map_append,
    List.map_singleton, FirstSeen.eraseDups_concat_of_notMem hnotMem, List.length_append,
    identifierCount, List.length_singleton]

theorem identifierCount_concat_of_held {held : SheetRow} (hid : row.stepId ≠ "")
    (hmem : held ∈ rows) (hheld : held.stepId = row.stepId) :
    identifierCount (rows ++ [row]) = identifierCount rows := by
  have hdefined : row.stepId ∈ (definingRows rows).map SheetRow.stepId := by
    refine List.mem_map.mpr ⟨held, List.mem_filter.mpr ⟨hmem, ?_⟩, hheld⟩
    simpa [hheld] using hid
  rw [identifierCount, definingRows_append, definingRows_singleton hid, List.map_append,
    List.map_singleton, FirstSeen.eraseDups_concat_of_mem hdefined, identifierCount]

/-- One row: it has an identifier exactly when it adds one or is warned about. -/
theorem Remark.count {said : List Issue} (h : Remark policy earlier row said) :
    (definingRows [row]).length + identifierCount earlier =
      said.countP (fun issue => issue.IsRedefinition) + identifierCount (earlier ++ [row]) := by
  cases h with
  | content hid =>
    rw [definingRows_singleton_eq_nil hid, identifierCount_concat_of_stepId_eq hid]
    rfl
  | nothing hid =>
    rw [definingRows_singleton_eq_nil hid, identifierCount_concat_of_stepId_eq hid]
    rfl
  | new hid hnew =>
    rw [definingRows_singleton hid, identifierCount_concat_of_new hid hnew]
    exact Nat.add_comm _ _ |>.trans (Nat.zero_add _).symm
  | ignored _ hid hearlier _ hheld =>
    rw [definingRows_singleton hid,
      identifierCount_concat_of_held hid (by simp [hearlier]) hheld]
    rfl
  | replaces _ hid hearlier hheld =>
    rw [definingRows_singleton hid,
      identifierCount_concat_of_held hid (by simp [hearlier]) hheld]
    rfl

/-- A whole scan: the rows with an identifier are as many as the identifiers they add and the
warnings together. -/
theorem count_of_covers {report : List Issue}
    (h : Report.Covers (Remark policy) earlier rows report) :
    (definingRows rows).length + identifierCount earlier =
      report.countP (fun issue => issue.IsRedefinition) + identifierCount (earlier ++ rows) := by
  induction h with
  | nil => rw [List.append_nil]; rfl
  | @cons earlier rows row said rest head _ ih =>
    have hrow := head.count
    rw [← List.singleton_append, definingRows_append, List.length_append, List.countP_append,
      ← List.append_assoc]
    omega

end Catalog

end Conformance
