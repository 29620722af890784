import Conformance.Proofs.Catalog.Contents
import Conformance.Proofs.Traversal
import Conformance.TestCase

set_option autoImplicit false

/-!
# Assembling test cases

The rows of the overview are read against the identifiers of the catalog.  A row fits when it
lists nothing without an identifier, or nothing but identifiers of the catalog under one of its
own.  If all rows fit, the assembled cases are those of the rows with an identifier, in order;
otherwise the first row that does not fit is at fault, and in it the first reference that leads
nowhere.
-/

namespace Conformance

namespace SheetRow

/-- The case identifier in a row of the overview; empty if the row describes no case. -/
def caseId (row : SheetRow) : String := row.cells.field TestCase.idColumn

/-- The reference cell of a row of the overview. -/
def referenceText (row : SheetRow) : String := row.cells.field TestCase.stepsColumn

/-- The references listed in a row of the overview. -/
def references (row : SheetRow) : List String := Text.items row.referenceText

/-- The container named in a row of the overview; empty if there is none. -/
def container (row : SheetRow) : String := row.cells.field TestCase.containerColumn

/-- The test case that a row with an identifier describes. -/
def testCase (row : SheetRow) : TestCase where
  id := row.caseId
  description := row.cells.field TestCase.descriptionColumn
  container := row.container
  steps := row.references
  location := row.location

@[simp] theorem id_testCase (row : SheetRow) : row.testCase.id = row.caseId := by
  simp only [testCase]

@[simp] theorem steps_testCase (row : SheetRow) : row.testCase.steps = row.references := by
  simp only [testCase]

/-- Without an identifier the row lists nothing; with one, it lists only known identifiers. -/
def Fits (ids : List String) (row : SheetRow) : Prop :=
  if row.caseId = "" then row.referenceText = ""
  else ∀ item ∈ row.references, item ≠ "" ∧ item ∈ ids

/-- What is wrong with a row that does not fit. -/
inductive Fault (ids : List String) (row : SheetRow) : ConvertError → Prop where
  /-- The row lists steps, but has no identifier. -/
  | unidentified (hid : row.caseId = "") (hrefs : row.referenceText ≠ "") :
      Fault ids row (.caseWithoutIdentifier row.referenceText row.location)
  /-- The first reference that leads nowhere is an empty item. -/
  | empty {before after : List String} (hid : row.caseId ≠ "")
      (hrefs : row.references = before ++ "" :: after)
      (hbefore : ∀ item ∈ before, item ≠ "" ∧ item ∈ ids) :
      Fault ids row (.emptyStepReference row.caseId before.length row.location)
  /-- The first reference that leads nowhere is no known identifier. -/
  | unknown {before after : List String} {item : String} (hid : row.caseId ≠ "")
      (hrefs : row.references = before ++ item :: after)
      (hbefore : ∀ item ∈ before, item ≠ "" ∧ item ∈ ids) (hitem : item ≠ "")
      (hunknown : item ∉ ids) :
      Fault ids row (.unknownStepReference row.caseId item row.location)

/-- Which rows fit depends on the identifiers as a set. -/
theorem fits_congr {ids others : List String} (h : ∀ id, id ∈ ids ↔ id ∈ others)
    {row : SheetRow} : row.Fits ids ↔ row.Fits others := by
  simp only [Fits, h]

/-- What is wrong with a row depends on the identifiers as a set. -/
theorem Fault.congr {ids others : List String} (h : ∀ id, id ∈ ids ↔ id ∈ others)
    {row : SheetRow} {error : ConvertError} (hfault : row.Fault ids error) :
    row.Fault others error := by
  cases hfault with
  | unidentified hid hrefs => exact .unidentified hid hrefs
  | empty hid hrefs hbefore => exact .empty hid hrefs (by simpa only [h] using hbefore)
  | unknown hid hrefs hbefore hitem hunknown =>
    exact .unknown hid hrefs (by simpa only [h] using hbefore) hitem (by rwa [← h])

/-- A row that does not fit has a fault. -/
theorem exists_fault {ids : List String} {row : SheetRow} (h : ¬ row.Fits ids) :
    ∃ error, row.Fault ids error := by
  unfold Fits at h
  by_cases hid : row.caseId = ""
  · rw [if_pos hid] at h
    exact ⟨_, .unidentified hid h⟩
  · rw [if_neg hid] at h
    obtain ⟨before, item, after, hrefs, hbefore, hitem⟩ := FirstSeen.exists_first_not h
    by_cases hempty : item = ""
    · subst hempty
      exact ⟨_, .empty hid hrefs hbefore⟩
    · exact ⟨_, .unknown hid hrefs hbefore hempty fun hmem => hitem ⟨hempty, hmem⟩⟩

end SheetRow

/-- The rows that describe a test case. -/
def describingRows (rows : List SheetRow) : List SheetRow := rows.filter fun row => row.caseId ≠ ""

theorem mem_describingRows {rows : List SheetRow} {row : SheetRow} :
    row ∈ describingRows rows ↔ row ∈ rows ∧ row.caseId ≠ "" := by
  simp [describingRows]

namespace TestCase

/-! ## One row -/

theorem badReference?_eq_none_iff {catalog : Catalog} (id : String) (location : Location)
    {references : List String} :
    badReference? catalog id location references = none ↔
      ∀ item ∈ references, item ≠ "" ∧ item ∈ catalog.ids := by
  unfold badReference?
  rw [List.findSome?_eq_none_iff]
  constructor
  · intro h item hitem
    obtain ⟨i, hi, rfl⟩ := List.mem_iff_getElem.mp hitem
    have hgood := h (references[i], i) (List.mk_mem_zipIdx_iff_getElem?.mpr (by simp [hi]))
    simp only at hgood
    split at hgood
    · cases hgood
    · next hne =>
      split at hgood
      · next hcontains => exact ⟨hne, Catalog.contains_iff.mp hcontains⟩
      · cases hgood
  · rintro h ⟨item, i⟩ hitem
    obtain ⟨hne, hmem⟩ := h item (List.fst_mem_of_mem_zipIdx hitem)
    simp [hne, Catalog.contains_iff.mpr hmem]

/-- The first reference that leads nowhere decides the error. -/
theorem badReference?_eq_some_iff {catalog : Catalog} {id : String} {location : Location}
    {references : List String} {error : ConvertError} :
    badReference? catalog id location references = some error ↔
      ∃ before item after, references = before ++ item :: after ∧
        (∀ item ∈ before, item ≠ "" ∧ item ∈ catalog.ids) ∧
        (item = "" ∧ error = .emptyStepReference id before.length location ∨
          item ≠ "" ∧ item ∉ catalog.ids ∧ error = .unknownStepReference id item location) := by
  constructor
  · intro h
    unfold badReference? at h
    obtain ⟨front, ⟨item, position⟩, back, hsplit, hitem, hfront⟩ :=
      List.findSome?_eq_some_iff.mp h
    rw [List.zipIdx_eq_append_iff] at hsplit
    obtain ⟨before, rest, rfl, rfl, hrest⟩ := hsplit
    obtain ⟨_, after, rfl, hhead, -⟩ := List.zipIdx_eq_cons_iff.mp hrest.symm
    obtain ⟨rfl, rfl⟩ := Prod.mk.inj hhead
    refine ⟨before, item, after, rfl, ?_, ?_⟩
    · exact (badReference?_eq_none_iff id location).mp (List.findSome?_eq_none_iff.mpr hfront)
    · simp only at hitem
      split at hitem
      · next hempty => exact Or.inl ⟨hempty, by simpa using hitem.symm⟩
      · next hne =>
        split at hitem
        · cases hitem
        · next hcontains =>
          rw [Catalog.contains_iff] at hcontains
          exact Or.inr ⟨hne, hcontains, by simpa using hitem.symm⟩
  · rintro ⟨before, item, after, rfl, hbefore, hitem⟩
    have hnone := (badReference?_eq_none_iff id location).mpr hbefore
    unfold badReference? at hnone ⊢
    rw [List.zipIdx_append, List.findSome?_append, hnone]
    rcases hitem with ⟨rfl, rfl⟩ | ⟨hne, hunknown, rfl⟩
    · simp
    · have hcontains : catalog.contains item = false := by
        rw [Bool.eq_false_iff, ne_eq, Catalog.contains_iff]
        exact hunknown
      simp [hne, hcontains]

theorem ofRow?_of_caseId_eq {catalog : Catalog} {row : SheetRow} (h : row.caseId = "") :
    ofRow? catalog row =
      if row.referenceText = "" then .ok none
      else .error (.caseWithoutIdentifier row.referenceText row.location) :=
  if_pos h

theorem ofRow?_of_badReference?_eq_none {catalog : Catalog} {row : SheetRow}
    (hid : row.caseId ≠ "")
    (h : badReference? catalog row.caseId row.location row.references = none) :
    ofRow? catalog row = .ok (some row.testCase) := by
  unfold SheetRow.references SheetRow.referenceText SheetRow.caseId at *
  simp only [ofRow?, h, if_neg hid]
  rfl

theorem ofRow?_of_badReference?_eq_some {catalog : Catalog} {row : SheetRow}
    {error : ConvertError} (hid : row.caseId ≠ "")
    (h : badReference? catalog row.caseId row.location row.references = some error) :
    ofRow? catalog row = .error error := by
  unfold SheetRow.references SheetRow.referenceText SheetRow.caseId at *
  simp only [ofRow?, h, if_neg hid]

/-- A row that fits yields its test case, if it describes one. -/
theorem ofRow?_eq_ok {catalog : Catalog} {row : SheetRow} (h : row.Fits catalog.ids) :
    ofRow? catalog row = .ok (if row.caseId = "" then none else some row.testCase) := by
  unfold SheetRow.Fits at h
  by_cases hid : row.caseId = ""
  · rw [if_pos hid] at h
    rw [ofRow?_of_caseId_eq hid, if_pos h, if_pos hid]
  · rw [if_neg hid] at h
    rw [ofRow?_of_badReference?_eq_none hid (badReference?_eq_none_iff _ _ |>.mpr h), if_neg hid]

/-- A row with a fault fails with it. -/
theorem ofRow?_eq_error {catalog : Catalog} {row : SheetRow} {error : ConvertError}
    (h : row.Fault catalog.ids error) : ofRow? catalog row = .error error := by
  cases h with
  | unidentified hid hrefs => rw [ofRow?_of_caseId_eq hid, if_neg hrefs]
  | empty hid hrefs hbefore =>
    exact ofRow?_of_badReference?_eq_some hid
      (badReference?_eq_some_iff.mpr ⟨_, _, _, hrefs, hbefore, Or.inl ⟨rfl, rfl⟩⟩)
  | unknown hid hrefs hbefore hitem hunknown =>
    exact ofRow?_of_badReference?_eq_some hid
      (badReference?_eq_some_iff.mpr
        ⟨_, _, _, hrefs, hbefore, Or.inr ⟨hitem, hunknown, rfl⟩⟩)

/-- A row fails exactly with its fault. -/
theorem ofRow?_eq_error_iff {catalog : Catalog} {row : SheetRow} {error : ConvertError} :
    ofRow? catalog row = .error error ↔ row.Fault catalog.ids error := by
  refine ⟨fun h => ?_, ofRow?_eq_error⟩
  have hfit : ¬ row.Fits catalog.ids := by
    intro hfit
    rw [ofRow?_eq_ok hfit] at h
    cases h
  obtain ⟨found, hfound⟩ := SheetRow.exists_fault hfit
  have hsame : Except.error error = .error found := h.symm.trans (ofRow?_eq_error hfound)
  cases hsame
  exact hfound

/-- A row is read exactly when it fits. -/
theorem exists_ofRow?_eq_ok_iff {catalog : Catalog} {row : SheetRow} :
    (∃ found, ofRow? catalog row = .ok found) ↔ row.Fits catalog.ids := by
  refine ⟨fun ⟨found, h⟩ => ?_, fun h => ⟨_, ofRow?_eq_ok h⟩⟩
  by_contra hfit
  obtain ⟨error, herror⟩ := SheetRow.exists_fault hfit
  rw [ofRow?_eq_error herror] at h
  cases h

/-! ## The whole overview -/

/-- The outcome of reading rows does not depend on the issues found on the way. -/
theorem outcome_addRows (catalog : Catalog) (earlier : List TestCase) (rows : List SheetRow) :
    (addRows catalog earlier rows).outcome =
      (rows.mapM (ofRow? catalog)).map fun found => earlier ++ found.flatMap Option.toList := by
  induction rows generalizing earlier with
  | nil => simp [addRows, Audit.ok, pure, Except.pure, Except.map]
  | cons row rows ih =>
    rw [addRows, List.mapM_cons]
    cases ofRow? catalog row with
    | error error => rfl
    | ok testCase? =>
      simp only [Audit.outcome_bind, bind, Except.bind, ih]
      cases rows.mapM (ofRow? catalog) with
      | error error => rfl
      | ok found => simp [Except.map, pure, Except.pure]

theorem flatMap_testCase (rows : List SheetRow) :
    (rows.flatMap fun row => (if row.caseId = "" then none else some row.testCase).toList) =
      (describingRows rows).map SheetRow.testCase := by
  induction rows with
  | nil => rfl
  | cons row rows ih =>
    rw [List.flatMap_cons, ih]
    by_cases hid : row.caseId = "" <;> simp [describingRows, hid]

/-- If all rows fit, the test cases are those of the rows with an identifier, in order. -/
theorem outcome_assemble_eq_ok {overview : Sheet} {catalog : Catalog}
    (h : ∀ row ∈ overview.dataRows, row.Fits catalog.ids) :
    (assemble overview catalog).outcome =
      .ok ((describingRows overview.dataRows).map SheetRow.testCase) := by
  rw [assemble, outcome_addRows,
    Traversal.mapM_eq_ok_map fun row hrow => ofRow?_eq_ok (h row hrow)]
  simp only [Except.map, List.nil_append, List.flatMap_map, flatMap_testCase]

/-- Otherwise the first row that does not fit decides the error. -/
theorem outcome_assemble_eq_error_iff {overview : Sheet} {catalog : Catalog}
    {error : ConvertError} :
    (assemble overview catalog).outcome = .error error ↔
      ∃ before row after, overview.dataRows = before ++ row :: after ∧
        (∀ row ∈ before, row.Fits catalog.ids) ∧ row.Fault catalog.ids error := by
  rw [assemble, outcome_addRows]
  have hmap : ∀ outcome : Except ConvertError (List (Option TestCase)),
      (outcome.map fun found => [] ++ found.flatMap Option.toList) = .error error ↔
        outcome = .error error := by
    rintro (e | found) <;> simp [Except.map]
  rw [hmap, Traversal.mapM_eq_error_iff]
  simp only [exists_ofRow?_eq_ok_iff, ofRow?_eq_error_iff]

/-- An overview that was read has only rows that fit. -/
theorem fits_of_outcome_assemble {overview : Sheet} {catalog : Catalog}
    {testCases : List TestCase} (h : (assemble overview catalog).outcome = .ok testCases) :
    ∀ row ∈ overview.dataRows, row.Fits catalog.ids := by
  by_contra hnot
  obtain ⟨before, row, after, hrows, hbefore, hrow⟩ := FirstSeen.exists_first_not hnot
  obtain ⟨error, hfault⟩ := SheetRow.exists_fault hrow
  rw [outcome_assemble_eq_error_iff.mpr ⟨_, _, _, hrows, hbefore, hfault⟩] at h
  cases h

/-- Rows that fit refer to known identifiers alone. -/
theorem references_mem_of_fits {ids : List String} {rows : List SheetRow}
    (h : ∀ row ∈ rows, row.Fits ids) :
    ∀ testCase ∈ (describingRows rows).map SheetRow.testCase,
      ∀ reference ∈ testCase.steps, reference ∈ ids := by
  intro testCase hcase reference hreference
  obtain ⟨row, hrow, rfl⟩ := List.mem_map.mp hcase
  obtain ⟨hmem, hid⟩ := mem_describingRows.mp hrow
  have hfits := h row hmem
  rw [SheetRow.Fits, if_neg hid] at hfits
  rw [SheetRow.steps_testCase] at hreference
  exact (hfits reference hreference).2

/-- Assembled test cases refer to steps of the catalog alone. -/
theorem references_mem_ids {overview : Sheet} {catalog : Catalog} {testCases : List TestCase}
    (h : (assemble overview catalog).outcome = .ok testCases) :
    ∀ testCase ∈ testCases, ∀ reference ∈ testCase.steps, reference ∈ catalog.ids := by
  have hfits := fits_of_outcome_assemble h
  rw [outcome_assemble_eq_ok hfits] at h
  cases h
  exact references_mem_of_fits hfits

end TestCase

end Conformance
