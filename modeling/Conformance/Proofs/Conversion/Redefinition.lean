import Conformance.Proofs.Conversion.Acceptance
import Conformance.Proofs.Layout.Resolution
import Conformance.Proofs.Workbook.Cells

set_option autoImplicit false

/-!
# Where a rejected identifier was defined

The error about an identifier that is defined again names two rows.  The scan goes through the
category sheets in turn, and through the rows of each (`Selection.scan`), so both rows were read,
the one named first before the other (`Selection.Redefines`).  They are different rows, unless a
sheet was selected twice: then its own first definition is read a second time, and this is the only
way in which one row comes to be named twice.
-/

namespace Conformance

namespace Selection

/-- The rows of the category sheets in the order in which they are read, each with the position of
its sheet among the categories and its own position in the sheet. -/
def scan (s : Selection) : List (Nat × SheetRow × Nat) :=
  Dataset.entries (fun placed => placed.sheet.dataRows) s.categories 0

/-- The row is read when the scan comes to the category at this position. -/
def Scans (s : Selection) (position : Nat) (row : SheetRow) : Prop :=
  ∃ placed, s.categories[position]? = some placed ∧ row ∈ placed.sheet.dataRows

/-- Two rows, named by their locations, that define the identifier and are read one after the other,
under the categories `i` and `j`. -/
structure Redefines (s : Selection) (id : String) (first second : Location) (i j : Nat) : Prop where
  definesFirst : ∃ row, s.Scans i row ∧ row.stepId = id ∧ row.location = first
  definesSecond : ∃ row, s.Scans j row ∧ row.stepId = id ∧ row.location = second
  /-- The sheet of the first row is scanned earlier, or the row stands further up. -/
  order : i < j ∨ i = j ∧ first.row < second.row
  /-- The locations are one only if the sheet is scanned twice. -/
  same : first = second ↔ i < j ∧ s.categories[i]? = s.categories[j]?

variable {s : Selection}

/-! ## The scan -/

theorem map_scan (s : Selection) : s.scan.map (fun entry => entry.2.1) = s.categoryRows := by
  rw [scan, Dataset.map_item_entries, categoryRows, List.flatMap_map]

theorem exists_of_mem_scan {entry : Nat × SheetRow × Nat} (h : entry ∈ s.scan) :
    ∃ placed, s.categories[entry.1]? = some placed ∧
      placed.sheet.dataRows[entry.2.2]? = some entry.2.1 := by
  obtain ⟨k, placed, hplaced, hnumber, hrow⟩ := Dataset.exists_owner_of_mem_entries h
  rw [Nat.zero_add] at hnumber
  exact ⟨placed, by rw [hnumber, hplaced], hrow⟩

theorem mem_scan {i position : Nat} {placed : PlacedSheet} {row : SheetRow}
    (hplaced : s.categories[i]? = some placed)
    (hrow : placed.sheet.dataRows[position]? = some row) : (i, row, position) ∈ s.scan := by
  rw [scan, ← Nat.zero_add i]
  exact Dataset.mem_entries hplaced hrow

theorem definitions_eq_map_scan (s : Selection) :
    s.definitions =
      (s.scan.filter fun entry => entry.2.1.stepId ≠ "").map fun entry => entry.2.1 := by
  rw [definitions, definingRows, ← map_scan, List.filter_map]
  rfl

theorem location_of_getElem? {sheet : Sheet} {position : Nat} {row : SheetRow}
    (h : sheet.dataRows[position]? = some row) : row.location = ⟨sheet.name, position + 2⟩ := by
  rw [Sheet.eq_dataRow_of_getElem? h, Sheet.dataRow]

/-! ## The first repetition in a scan -/

/-- Where sheets with the same name are the same, the first repetition is one of two rows, unless
the scan comes to a sheet again. -/
theorem exists_redefines
    (hsheets : ∀ a ∈ s.categories, ∀ b ∈ s.categories, a.sheet.name = b.sheet.name → a = b)
    {first second : SheetRow}
    (h : FirstSeen.FirstRepeat SheetRow.stepId s.definitions first second) :
    ∃ i j, s.Redefines second.stepId first.location second.location i j := by
  rw [definitions_eq_map_scan] at h
  obtain ⟨a, b, rfl, rfl, hrepeat⟩ := h.exists_of_map
  have hpairs : (s.scan.filter fun entry => entry.2.1.stepId ≠ "").Pairwise Dataset.Precedes :=
    (Dataset.pairwise_entries _ _ _).filter _
  have hprecedes := hrepeat.rel_of_pairwise hpairs
  obtain ⟨ha, hb⟩ := hrepeat.mem
  rw [List.mem_filter] at ha hb
  obtain ⟨sheet, hsheet, hfirst⟩ := exists_of_mem_scan ha.1
  obtain ⟨other, hother, hsecond⟩ := exists_of_mem_scan hb.1
  have hfirstLocation := location_of_getElem? hfirst
  have hsecondLocation := location_of_getElem? hsecond
  refine ⟨a.1, b.1, ?_⟩
  constructor
  case definesFirst =>
    exact ⟨a.2.1, ⟨sheet, hsheet, List.mem_of_getElem? hfirst⟩, hrepeat.key_eq.symm, rfl⟩
  case definesSecond => exact ⟨b.2.1, ⟨other, hother, List.mem_of_getElem? hsecond⟩, rfl, rfl⟩
  case order =>
    rw [hfirstLocation, hsecondLocation]
    exact hprecedes.imp id fun ⟨hsame, hlt⟩ => ⟨hsame, Nat.add_lt_add_right hlt 2⟩
  case same =>
    constructor
    · intro hsame
      rw [hfirstLocation, hsecondLocation, Location.mk.injEq] at hsame
      obtain rfl := hsheets sheet (List.mem_of_getElem? hsheet) other
        (List.mem_of_getElem? hother) hsame.1
      refine ⟨?_, hsheet.trans hother.symm⟩
      rcases hprecedes with hlt | ⟨-, hlt⟩
      · exact hlt
      · omega
    -- the second row was already read when the scan first came to its sheet
    · rintro ⟨hlt, hcategory⟩
      have hearlier : (a.1, b.2.1, b.2.2) ∈ s.scan :=
        mem_scan (hcategory.trans hother) hsecond
      have hfound : (a.1, b.2.1, b.2.2) = a :=
        hrepeat.eq_first hpairs (fun _ _ => Dataset.Precedes.asymm)
          (List.mem_filter.mpr ⟨hearlier, hb.2⟩) (Or.inl hlt) rfl
      rw [← hfound]

/-- Where no sheet is selected twice, the rows are different ones. -/
theorem Redefines.ne {id : String} {first second : Location} {i j : Nat}
    (h : s.Redefines id first second i j) (hnodup : s.categories.Nodup) : first ≠ second := by
  intro hsame
  obtain ⟨hlt, hcategory⟩ := h.same.mp hsame
  obtain ⟨-, ⟨placed, hplaced, -⟩, -⟩ := h.definesFirst
  obtain ⟨hbound, -⟩ := List.getElem?_eq_some_iff.mp hplaced
  have hindex : i = j := (List.getElem?_inj hbound hnodup).mp hcategory
  omega

end Selection

namespace Conversion

/-- The error about an identifier that is defined again names two rows that were read one after the
other and define it.  They are different rows, unless the layout lists a sheet twice. -/
theorem convert_redefines {wb : Workbook} {options : Options} {id : String}
    {first second : Location} (hnames : wb.sheetNames.Nodup)
    (h : convert wb options = .error (.duplicateStep id first second)) :
    ∃ selection i j, options.layout.resolve wb = .ok selection ∧
      selection.Redefines id first second i j ∧
      (options.layout.categories = .allAfterOverview ∨ selection.categories.Nodup →
        first ≠ second) := by
  cases firstViolation_of_convert h with
  | @selection selection _ hlayout hviolates =>
    have hstands : ∀ placed ∈ selection.categories,
        wb.sheets[placed.index]? = some placed.sheet := fun _ =>
      Layout.getElem?_of_mem_categories hlayout
    cases hviolates with
    | repeated _ hrepeat =>
      obtain ⟨i, j, hredefines⟩ := Selection.exists_redefines
        (fun a ha b hb => Workbook.placed_eq_of_name_eq hnames (hstands a ha) (hstands b hb)) hrepeat
      refine ⟨selection, i, j, hlayout, hredefines, ?_⟩
      rintro (hcategories | hnodup)
      · exact hredefines.ne (Layout.nodup_categories hlayout hcategories)
      · exact hredefines.ne hnodup
    | fault _ _ _ hfault => cases hfault

/-- A workbook with the same step on two category sheets. -/
def sameStep : Workbook where
  sheets := [
    { name := "Cases", rows := [[]] },
    { name := "Doors", rows := [[], [.text "D"], [.text "S"]] },
    { name := "Gates", rows := [[], [.text "S"]] }]

theorem sameStep_redefines :
    ∃ selection i j, Layout.resolve { overview := .name "Cases" } sameStep = .ok selection ∧
      selection.Redefines "S" ⟨"Doors", 3⟩ ⟨"Gates", 2⟩ i j := by
  have hnames : sameStep.sheetNames.Nodup := by decide
  have herror : convert sameStep { layout := { overview := .name "Cases" } } =
      .error (.duplicateStep "S" ⟨"Doors", 3⟩ ⟨"Gates", 2⟩) := by decide +kernel
  obtain ⟨selection, i, j, hlayout, hredefines, -⟩ := convert_redefines hnames herror
  exact ⟨selection, i, j, hlayout, hredefines⟩

/-- A workbook with one step on one category sheet. -/
def oneStep : Workbook where
  sheets := [
    { name := "Cases", rows := [[]] },
    { name := "Steps", rows := [[], [.text "S"]] }]

/-- A layout that lists the category sheet under two names. -/
def twice : Options where
  layout := { overview := .name "Cases", categories := .listed [.name "Steps", .name "steps"] }

/-- The one row that defines the step is reported as two. -/
theorem oneStep_redefined :
    oneStep.sheetNames.Nodup ∧
      convert oneStep twice = .error (.duplicateStep "S" ⟨"Steps", 2⟩ ⟨"Steps", 2⟩) := by
  constructor <;> decide +kernel

end Conversion

end Conformance
