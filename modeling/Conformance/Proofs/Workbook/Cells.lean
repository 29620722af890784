import Conformance.Workbook
import Mathlib.Data.List.Basic

set_option autoImplicit false

/-!
# Rows and cells by position

Every sheet shows something at every position: where it has no row or no cell, it shows the empty
cell.  So two sheets of different lengths can be compared (`Sheet.AgreesOn`), and if they agree in
the columns that a reader looks at, the reader finds the same in their data rows, provided that it
finds nothing in an empty row (`filterMap_dataRows_congr`).
-/

namespace Conformance

namespace Sheet

variable {α : Type}

/-- The row at a position, counted from the header; a missing row is empty. -/
def row (sheet : Sheet) (position : Nat) : Row := sheet.rows[position]?.getD []

/-- The data row at a position, counted from the first row below the header. -/
def dataRow (sheet : Sheet) (position : Nat) : SheetRow where
  location := ⟨sheet.name, position + 2⟩
  cells := sheet.row (position + 1)

/-- Below the header, both sheets show the same texts in some columns. -/
def AgreesOn (columns : List Nat) (sheet other : Sheet) : Prop :=
  ∀ position, 1 ≤ position → ∀ column ∈ columns,
    (sheet.row position).field column = (other.row position).field column

theorem row_eq_nil {sheet : Sheet} {position : Nat} (h : sheet.rows.length ≤ position) :
    sheet.row position = [] := by
  rw [row, List.getElem?_eq_none h, Option.getD_none]

theorem dataRows_eq_map_range (sheet : Sheet) :
    sheet.dataRows = (List.range (sheet.rows.length - 1)).map sheet.dataRow := by
  apply List.ext_getElem?
  intro i
  by_cases hi : i < sheet.rows.length - 1
  · have hrow : i + 1 < sheet.rows.length := by omega
    have hnumber : 2 + i = i + 2 := by omega
    simp [dataRows, dataRow, row, hi, hrow, hnumber]
  · rw [List.getElem?_eq_none (by simpa [length_dataRows] using hi),
      List.getElem?_eq_none (by simpa using hi)]

theorem eq_dataRow_of_getElem? {sheet : Sheet} {position : Nat} {row : SheetRow}
    (h : sheet.dataRows[position]? = some row) : row = sheet.dataRow position := by
  rw [dataRows_eq_map_range, List.getElem?_map, Option.map_eq_some_iff] at h
  obtain ⟨i, hi, rfl⟩ := h
  obtain ⟨hlt, rfl⟩ := List.getElem?_eq_some_iff.mp hi
  rw [List.getElem_range]

/-- The data rows stand at the positions behind the header. -/
theorem mem_dataRows_iff {sheet : Sheet} {row : SheetRow} :
    row ∈ sheet.dataRows ↔
      ∃ position, position + 1 < sheet.rows.length ∧ row = sheet.dataRow position := by
  simp only [dataRows_eq_map_range, List.mem_map, List.mem_range, Nat.lt_sub_iff_add_lt, eq_comm]

/-- A reader that finds nothing in an empty row finds nothing beyond the end of the sheet. -/
theorem filterMap_dataRows {read : SheetRow → Option α}
    (hempty : ∀ location, read ⟨location, []⟩ = none) (sheet : Sheet) {count : Nat}
    (hcount : sheet.rows.length - 1 ≤ count) :
    sheet.dataRows.filterMap read =
      (List.range count).filterMap fun position => read (sheet.dataRow position) := by
  obtain ⟨extra, rfl⟩ := Nat.exists_eq_add_of_le hcount
  have hbeyond : (List.range extra).filterMap
      (fun i => read (sheet.dataRow (sheet.rows.length - 1 + i))) = [] := by
    rw [List.filterMap_eq_nil_iff]
    intro i _
    rw [dataRow, row_eq_nil (by omega)]
    exact hempty _
  rw [dataRows_eq_map_range, List.filterMap_map, List.range_add, List.filterMap_append,
    List.filterMap_map]
  simp only [Function.comp_def]
  rw [hbeyond, List.append_nil]

/-- A reader finds the same in two sheets in which it sees the same. -/
theorem filterMap_dataRows_congr {read : SheetRow → Option α}
    (hempty : ∀ location, read ⟨location, []⟩ = none) {sheet other : Sheet}
    (hread : ∀ position, read (sheet.dataRow position) = read (other.dataRow position)) :
    sheet.dataRows.filterMap read = other.dataRows.filterMap read := by
  rw [filterMap_dataRows hempty sheet (Nat.le_add_right _ (other.rows.length - 1)),
    filterMap_dataRows hempty other (Nat.le_add_left _ (sheet.rows.length - 1))]
  simp only [hread]

/-- It is enough to compare two sheets as far as one of them has rows. -/
theorem agreesOn_of_lt {columns : List Nat} {sheet other : Sheet} {count : Nat}
    (hsheet : sheet.rows.length ≤ count) (hother : other.rows.length ≤ count)
    (h : ∀ position < count, 1 ≤ position → ∀ column ∈ columns,
      (sheet.row position).field column = (other.row position).field column) :
    sheet.AgreesOn columns other := by
  intro position hposition column hcolumn
  by_cases hlt : position < count
  · exact h position hlt hposition column hcolumn
  · rw [row_eq_nil (by omega), row_eq_nil (by omega)]

end Sheet

end Conformance
