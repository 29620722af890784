import Conformance.Proofs.Conversion.Location
import Conformance.Proofs.Workbook.Cells
import Conformance.Workbook.UsedArea

set_option autoImplicit false

/-!
# Positions in a spreadsheet file

A spreadsheet file says of each sheet which rectangle is in use, and counts rows and columns from the
corner of the sheet, not of the rectangle.  `StoredSheet.cell` reads a position of the file in these
coordinates.  The sheet made from it has a row for every row up to the end of the rectangle, shows
what the file has at every position, and delivers each row below the header under the number that a
spreadsheet shows beside it (`Sheet.Shows`).

Issues and errors locate data rows of the sheets, so they locate rows of the file
(`coordinates_kept`).
-/

namespace Conformance

namespace UsedArea

/-- The rectangle ends in this row and this column, and has a value at each of its positions. -/
structure Spans (area : UsedArea) (lastRow lastColumn : Nat) : Prop where
  firstRow_le : area.firstRow ≤ lastRow
  firstColumn_le : area.firstColumn ≤ lastColumn
  length_rows : area.rows.length = lastRow - area.firstRow + 1
  length_row : ∀ row ∈ area.rows, row.length = lastColumn - area.firstColumn + 1

/-- The value at a position, counted from the first row and the first column of the sheet. -/
def value? (area : UsedArea) (row column : Nat) : Option StoredValue :=
  if area.firstRow ≤ row ∧ area.firstColumn ≤ column then
    area.rows[row - area.firstRow]?.bind fun values => values[column - area.firstColumn]?
  else none

variable {area : UsedArea} {lastRow lastColumn : Nat}

/-- There is a value just inside the rectangle. -/
theorem Spans.exists_value_iff (h : area.Spans lastRow lastColumn) {row column : Nat} :
    (∃ value, area.value? row column = some value) ↔
      (area.firstRow ≤ row ∧ row ≤ lastRow) ∧ area.firstColumn ≤ column ∧ column ≤ lastColumn := by
  unfold value?
  by_cases hfirst : area.firstRow ≤ row ∧ area.firstColumn ≤ column
  · rw [if_pos hfirst]
    have hrows := h.length_rows
    constructor
    · rintro ⟨value, hvalue⟩
      obtain ⟨values, hvalues, hcolumn⟩ := Option.bind_eq_some_iff.mp hvalue
      have hwidth := h.length_row values (List.mem_of_getElem? hvalues)
      obtain ⟨hrow, -⟩ := List.getElem?_eq_some_iff.mp hvalues
      obtain ⟨hlt, -⟩ := List.getElem?_eq_some_iff.mp hcolumn
      have := h.firstRow_le
      have := h.firstColumn_le
      omega
    · rintro ⟨⟨-, hrow⟩, -, hcolumn⟩
      have hlt : row - area.firstRow < area.rows.length := by omega
      have hwidth := h.length_row _ (List.getElem_mem hlt)
      rw [List.getElem?_eq_getElem hlt, Option.bind_some]
      exact ⟨_, List.getElem?_eq_getElem (by omega)⟩
  · rw [if_neg hfirst]
    simp only [reduceCtorEq, exists_false, false_iff]
    omega

theorem length_sheetRows (area : UsedArea) :
    area.sheetRows.length = area.firstRow + area.rows.length := by
  simp [sheetRows]

/-- A row in the rectangle is filled up from the left. -/
theorem cell_placedRow (area : UsedArea) (values : List StoredValue) (column : Nat) :
    (area.placedRow values).cell column =
      if area.firstColumn ≤ column then
        (values[column - area.firstColumn]?.map StoredValue.cell).getD .empty
      else .empty := by
  unfold Row.cell placedRow
  by_cases h : area.firstColumn ≤ column
  · rw [if_pos h, List.getElem?_append_right (by simpa using h), List.length_replicate,
      List.getElem?_map]
  · rw [if_neg h, List.getElem?_append_left (by simpa using h), List.getElem?_replicate_of_lt
      (by omega), Option.getD_some]

end UsedArea

/-- A sheet of a spreadsheet file; without a used area nothing is stored of it but its name. -/
structure StoredSheet where
  name : String
  area : Option UsedArea
  deriving DecidableEq, Repr

namespace StoredSheet

/-- The sheet that is read from the file. -/
def sheet (stored : StoredSheet) : Sheet := Sheet.ofUsedArea stored.name stored.area

/-- What stands at a position of the file, counted from its first row and its first column. -/
def cell (stored : StoredSheet) (row column : Nat) : Cell :=
  ((stored.area.bind fun area => area.value? row column).map StoredValue.cell).getD .empty

/-- The number of rows up to the end of the used area. -/
def rowCount (stored : StoredSheet) : Nat :=
  stored.area.elim 0 fun area => area.firstRow + area.rows.length

/-- The row stands below the header of the sheet in the file, under its number. -/
structure HasRow (stored : StoredSheet) (row : SheetRow) : Prop where
  sheet_eq : row.location.sheet = stored.name
  two_le : 2 ≤ row.location.row
  le_rowCount : row.location.row ≤ stored.rowCount
  cell_eq : ∀ column, row.cells.cell column = stored.cell (row.location.row - 1) column

theorem length_rows_sheet (stored : StoredSheet) : stored.sheet.rows.length = stored.rowCount := by
  obtain ⟨name, _ | area⟩ := stored
  · rfl
  · exact area.length_sheetRows

/-- Every position of the sheet shows what stands there in the file. -/
theorem cell_row_sheet (stored : StoredSheet) (row column : Nat) :
    (stored.sheet.row row).cell column = stored.cell row column := by
  obtain ⟨name, _ | area⟩ := stored
  · rfl
  change ((area.sheetRows[row]?.getD [] : Row).cell column) =
    ((area.value? row column).map StoredValue.cell).getD .empty
  unfold UsedArea.sheetRows UsedArea.value?
  by_cases hrow : area.firstRow ≤ row
  · rw [List.getElem?_append_right (by simpa using hrow), List.length_replicate, List.getElem?_map]
    cases area.rows[row - area.firstRow]? with
    | none => by_cases hcolumn : area.firstColumn ≤ column <;> simp [hrow, hcolumn, Row.cell]
    | some values =>
      rw [Option.map_some, Option.getD_some, UsedArea.cell_placedRow]
      by_cases hcolumn : area.firstColumn ≤ column <;> simp [hrow, hcolumn]
  -- above the rectangle the sheet has rows, but no cells in them
  · rw [List.getElem?_append_left (by simpa using hrow), if_neg (fun h => hrow h.1),
      List.getElem?_replicate_of_lt (by omega)]
    rfl

theorem hasRow_dataRow (stored : StoredSheet) {position : Nat}
    (h : position + 1 < stored.rowCount) : stored.HasRow (stored.sheet.dataRow position) where
  sheet_eq := by
    obtain ⟨name, _ | area⟩ := stored <;> rfl
  two_le := Nat.le_add_left 2 position
  le_rowCount := h
  cell_eq := stored.cell_row_sheet (position + 1)

/-- The data rows of the sheet are the rows of the file below the header. -/
theorem hasRow_of_mem_dataRows {stored : StoredSheet} {row : SheetRow}
    (h : row ∈ stored.sheet.dataRows) : stored.HasRow row := by
  obtain ⟨position, hposition, rfl⟩ := Sheet.mem_dataRows_iff.mp h
  exact stored.hasRow_dataRow (by rwa [← length_rows_sheet])

end StoredSheet

namespace Workbook

/-- The workbook that is read from a file. -/
def ofFile (file : List StoredSheet) : Workbook := ⟨file.map StoredSheet.sheet⟩

end Workbook

/-- A row of one of the sheets of a file. -/
def SheetRow.StandsIn (file : List StoredSheet) (row : SheetRow) : Prop :=
  ∃ stored ∈ file, stored.HasRow row

theorem SheetRow.standsIn_of_hasRow {file : List StoredSheet} {row : SheetRow}
    (h : (Workbook.ofFile file).HasRow row) : row.StandsIn file := by
  obtain ⟨sheet, hsheet, hrow⟩ := h
  obtain ⟨stored, hstored, rfl⟩ := List.mem_map.mp hsheet
  exact ⟨stored, hstored, StoredSheet.hasRow_of_mem_dataRows hrow⟩

namespace Sheet

/-- A sheet has everything at the place where it stands in the rectangle of a file that ends in this
row and this column. -/
structure Keeps (sheet : Sheet) (area : UsedArea) (lastRow lastColumn : Nat) : Prop where
  /-- The sheet reaches from its first row to the last one of the rectangle. -/
  length_rows : sheet.rows.length = lastRow + 1
  inside : ∀ row column, area.firstRow ≤ row → row ≤ lastRow →
    area.firstColumn ≤ column → column ≤ lastColumn →
      ∃ value, area.value? row column = some value ∧ (sheet.row row).cell column = value.cell
  outside : ∀ row column, row < area.firstRow ∨ lastRow < row ∨
    column < area.firstColumn ∨ lastColumn < column → (sheet.row row).cell column = .empty
  /-- A value below the first row is found in the one data row with the number of its row, which is
  counted from one. -/
  delivered : ∀ row column value, 1 ≤ row → area.value? row column = some value →
    ∃ data ∈ sheet.dataRows, data.location = ⟨sheet.name, row + 1⟩ ∧
      data.cells.cell column = value.cell ∧
      ∀ other ∈ sheet.dataRows, other.location.row = row + 1 → other = data

variable {area : UsedArea} {lastRow lastColumn : Nat}

theorem keeps_ofUsedArea (name : String) (h : area.Spans lastRow lastColumn) :
    (ofUsedArea name (some area)).Keeps area lastRow lastColumn := by
  have hlength : (ofUsedArea name (some area)).rows.length = lastRow + 1 := by
    rw [ofUsedArea, UsedArea.length_sheetRows, h.length_rows]
    have := h.firstRow_le
    omega
  have hcell : ∀ row column, ((ofUsedArea name (some area)).row row).cell column =
      ((area.value? row column).map StoredValue.cell).getD .empty :=
    StoredSheet.cell_row_sheet ⟨name, some area⟩
  constructor
  case length_rows => exact hlength
  case inside =>
    intro row column hfirst hlast hleft hright
    obtain ⟨value, hvalue⟩ := h.exists_value_iff.mpr ⟨⟨hfirst, hlast⟩, hleft, hright⟩
    exact ⟨value, hvalue, by rw [hcell, hvalue, Option.map_some, Option.getD_some]⟩
  case outside =>
    intro row column hout
    have hnone : area.value? row column = none := by
      rw [Option.eq_none_iff_forall_ne_some]
      intro value hvalue
      have := h.exists_value_iff.mp ⟨value, hvalue⟩
      omega
    rw [hcell, hnone, Option.map_none, Option.getD_none]
  case delivered =>
    intro row column value hrow hvalue
    obtain ⟨position, rfl⟩ := Nat.exists_eq_add_of_le' hrow
    have hlast := (h.exists_value_iff.mp ⟨value, hvalue⟩).1.2
    refine ⟨(ofUsedArea name (some area)).dataRow position, ?_, rfl, ?_, ?_⟩
    · exact mem_dataRows_iff.mpr ⟨position, by omega, rfl⟩
    · rw [dataRow, hcell, hvalue, Option.map_some, Option.getD_some]
    · intro other hother hnumber
      obtain ⟨found, -, rfl⟩ := mem_dataRows_iff.mp hother
      obtain rfl : found = position := Nat.add_right_cancel hnumber
      rfl

end Sheet

/-- A sheet that is read from a file has every value where it stands there and shows nothing
elsewhere, so the data rows come under their numbers in the file, and what issues and errors locate
are rows of the file. -/
theorem coordinates_kept :
    (∀ name, (Sheet.ofUsedArea name none).rows = [] ∧
      ∀ row column, ((Sheet.ofUsedArea name none).row row).cell column = .empty) ∧
    (∀ name area lastRow lastColumn, UsedArea.Spans area lastRow lastColumn →
      (Sheet.ofUsedArea name (some area)).Keeps area lastRow lastColumn) ∧
    ∀ file options,
      (∀ conversion, convert (Workbook.ofFile file) options = .ok conversion →
        ∀ issue ∈ conversion.issues, ∃ row : SheetRow, row.StandsIn file ∧
          issue.location = some row.location ∧
          issue.About options.onDuplicate (SheetRow.StandsIn file) row) ∧
      ∀ error, convert (Workbook.ofFile file) options = .error error →
        error.About (SheetRow.StandsIn file) ∧
        ∀ location ∈ error.locations, ∃ row : SheetRow, row.StandsIn file ∧
          row.location = location := by
  refine ⟨fun name => ⟨rfl, fun row column => rfl⟩,
    fun name area lastRow lastColumn => Sheet.keeps_ofUsedArea name, fun file options => ⟨?_, ?_⟩⟩
  · intro conversion hconvert issue hissue
    obtain ⟨row, habout⟩ := Conversion.about_of_mem_issues hconvert hissue
    have hfile := habout.mono fun row => SheetRow.standsIn_of_hasRow
    obtain ⟨hrow, hlocation⟩ := hfile.location_eq
    exact ⟨row, hrow, hlocation, hfile⟩
  · intro error hconvert
    have hfile := (Conversion.about_of_convert hconvert).mono fun row => SheetRow.standsIn_of_hasRow
    exact ⟨hfile, fun location hlocation => hfile.exists_row hlocation⟩

/-- The second and the third row of a sheet are in use. -/
def lowArea : UsedArea where
  firstRow := 1
  firstColumn := 0
  rows := [[.text "S", .text "Door"], [.empty, .text "Door"]]

/-- A file whose used areas begin below the header or right of the first column. -/
def lowFile : List StoredSheet := [
  ⟨"Notes", none⟩,
  ⟨"Cases", some { firstRow := 2, firstColumn := 1, rows := [[.text "C", .empty, .text "S"]] }⟩,
  ⟨"Steps", some lowArea⟩]

theorem lowFile_coordinates_kept :
    lowArea.Spans 2 1 ∧ (Sheet.ofUsedArea "Steps" (some lowArea)).Keeps lowArea 2 1 ∧
    ∃ conversion, convert (Workbook.ofFile lowFile) { } = .ok conversion ∧
      conversion.issues.map Issue.location = [some ⟨"Steps", 3⟩] ∧
      ∀ issue ∈ conversion.issues, ∃ row : SheetRow, row.StandsIn lowFile ∧
        issue.location = some row.location ∧
        issue.About .reject (SheetRow.StandsIn lowFile) row := by
  have hspans : lowArea.Spans 2 1 := ⟨by decide, by decide, rfl, by decide⟩
  have hlocations : ((convert (Workbook.ofFile lowFile) { }).toOption.map
      fun conversion => conversion.issues.map Issue.location) = some [some ⟨"Steps", 3⟩] := by
    decide +kernel
  refine ⟨hspans, coordinates_kept.2.1 "Steps" lowArea 2 1 hspans, ?_⟩
  cases hconvert : convert (Workbook.ofFile lowFile) { } with
  | error error =>
    rw [hconvert] at hlocations
    cases hlocations
  | ok conversion =>
    rw [hconvert] at hlocations
    exact ⟨conversion, rfl, Option.some.inj hlocations,
      (coordinates_kept.2.2 lowFile { }).1 conversion hconvert⟩

end Conformance
