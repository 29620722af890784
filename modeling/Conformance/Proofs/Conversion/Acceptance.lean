import Conformance.Proofs.Conversion.Outcome

set_option autoImplicit false

/-!
# Which workbooks are converted

A workbook is converted exactly when its layout resolves and the selected sheets are accepted.
Otherwise the error is the first violation: of the layout, then of the category sheets in scan
order, then of the overview in row order.  No error comes from the numbering, since the test cases
that were assembled refer to nothing but the catalog.
-/

namespace Conformance

/-- What stands in the way of a conversion first. -/
inductive FirstViolation (wb : Workbook) (options : Options) : ConvertError → Prop where
  | layout {cause : LayoutError} (hlayout : options.layout.resolve wb = .error cause) :
      FirstViolation wb options (.layout cause)
  | selection {selection : Selection} {error : ConvertError}
      (hlayout : options.layout.resolve wb = .ok selection)
      (hviolates : selection.Violates options.onDuplicate error) :
      FirstViolation wb options error

namespace Conversion

variable {wb : Workbook} {options : Options} {selection : Selection}

/-! ## The stages after the layout -/

theorem convert_of_resolve_eq_error {cause : LayoutError}
    (h : options.layout.resolve wb = .error cause) :
    convert wb options = .error (.layout cause) := by
  unfold convert
  rw [h]

theorem convert_of_accepts (hlayout : options.layout.resolve wb = .ok selection)
    (h : selection.Accepts options.onDuplicate) :
    ∃ conversion, convert wb options = .ok conversion := by
  obtain ⟨catalog, -, houtcome⟩ := outcome_of_accepts h
  unfold convert
  simp only [hlayout, houtcome]
  exact ⟨_, rfl⟩

theorem convert_of_violates {error : ConvertError}
    (hlayout : options.layout.resolve wb = .ok selection)
    (h : selection.Violates options.onDuplicate error) : convert wb options = .error error := by
  unfold convert
  simp only [hlayout, outcome_of_violates h]

/-! ## Exact acceptance -/

/-- What stands in the way first is the error of the conversion. -/
theorem convert_of_firstViolation {error : ConvertError} (h : FirstViolation wb options error) :
    convert wb options = .error error := by
  cases h with
  | layout hlayout => exact convert_of_resolve_eq_error hlayout
  | selection hlayout hviolates => exact convert_of_violates hlayout hviolates

/-- Either the selected sheets are accepted, or something stands in the way. -/
theorem accepted_or_firstViolation (wb : Workbook) (options : Options) :
    (∃ selection, options.layout.resolve wb = .ok selection ∧
      selection.Accepts options.onDuplicate) ∨ ∃ error, FirstViolation wb options error := by
  cases hlayout : options.layout.resolve wb with
  | error cause => exact Or.inr ⟨_, .layout hlayout⟩
  | ok selection =>
    rcases accepts_or_violates selection options.onDuplicate with h | ⟨error, h⟩
    · exact Or.inl ⟨selection, rfl, h⟩
    · exact Or.inr ⟨error, .selection hlayout h⟩

/-- A conversion comes from an accepted selection. -/
theorem exists_accepts_of_convert {conversion : Conversion}
    (h : convert wb options = .ok conversion) :
    ∃ selection, options.layout.resolve wb = .ok selection ∧
      selection.Accepts options.onDuplicate := by
  rcases accepted_or_firstViolation wb options with haccepted | ⟨error, hviolation⟩
  · exact haccepted
  · rw [convert_of_firstViolation hviolation] at h
    cases h

/-- An error of a conversion stands in its way first. -/
theorem firstViolation_of_convert {error : ConvertError}
    (h : convert wb options = .error error) : FirstViolation wb options error := by
  rcases accepted_or_firstViolation wb options with ⟨selection, hlayout, haccepts⟩ | ⟨other, hother⟩
  · obtain ⟨conversion, hok⟩ := convert_of_accepts hlayout haccepts
    rw [hok] at h
    cases h
  · rw [convert_of_firstViolation hother] at h
    cases h
    exact hother

/-- A conversion succeeds exactly when the layout resolves, no rejected identifier repeats and
every row of the overview fits; it fails exactly with what stands in the way first; and the
numbering, which comes last, never fails on what the overview was assembled to. -/
theorem convert_outcome (wb : Workbook) (options : Options) :
    ((∃ conversion, convert wb options = .ok conversion) ↔
      ∃ selection, options.layout.resolve wb = .ok selection ∧
        selection.Accepts options.onDuplicate) ∧
    (∀ error, convert wb options = .error error ↔ FirstViolation wb options error) ∧
    ∀ overview catalog testCases,
      (TestCase.assemble overview catalog).outcome = .ok testCases →
        ∃ dataset, Dataset.assign catalog testCases = .ok dataset := by
  refine ⟨⟨?_, ?_⟩, fun error => ⟨firstViolation_of_convert, convert_of_firstViolation⟩, ?_⟩
  · rintro ⟨conversion, hconvert⟩
    exact exists_accepts_of_convert hconvert
  · rintro ⟨selection, hlayout, haccepts⟩
    exact convert_of_accepts hlayout haccepts
  · intro overview catalog testCases hassemble
    exact ⟨_, Dataset.assign_eq_ok (TestCase.references_mem_ids hassemble)⟩

end Conversion

end Conformance
