import Conformance.Proofs.Layout.Resolution

set_option autoImplicit false

/-!
# The index form of a layout

A sheet can be referred to by its position, by its exact name, or by its name up to the case of
ASCII letters, and the categories can be listed or be all sheets behind the overview.  None of this
changes what is selected: references may be replaced by the positions they lead to, and by the
exact names if these are distinct (`resolve_mapRefs`), and the rule by the list of the positions
behind the overview (`resolve_rule`).  `Fails` says why nothing is selected, in terms of the first
reference that is at fault.
-/

namespace Conformance

/-! ## References -/

namespace Workbook

variable {wb : Workbook}

/-- A reference leads nowhere: no sheet has its position, or no sheet has its name, not even up to
the case of ASCII letters. -/
def Misses (wb : Workbook) : SheetRef → Prop
  | .index i => wb.sheets.length ≤ i
  | .name text => ∀ sheet ∈ wb.sheets, Text.sameName sheet.name text = false

theorem locate?_eq_none_iff {ref : SheetRef} : wb.locate? ref = none ↔ wb.Misses ref := by
  cases ref with
  | index i => simp [locate?, Misses]
  | name text =>
    rw [locate?, position?, Option.or_eq_none_iff, List.findIdx?_eq_none_iff,
      List.findIdx?_eq_none_iff, Misses]
    refine ⟨And.right, fun h => ⟨fun sheet hsheet => ?_, h⟩⟩
    -- a sheet of exactly this name would have it up to the case as well
    rw [beq_eq_false_iff_ne]
    rintro rfl
    simpa using h sheet hsheet

theorem lt_of_locate? {ref : SheetRef} {i : Nat} (h : wb.locate? ref = some i) :
    i < wb.sheets.length := by
  cases ref with
  | index j =>
    rw [locate?, Option.ite_none_right_eq_some] at h
    obtain ⟨hlt, hindex⟩ := h
    exact Option.some.inj hindex ▸ hlt
  | name text =>
    rw [locate?, position?, Option.or_eq_some_iff] at h
    rcases h with h | ⟨-, h⟩
    · exact (List.findIdx?_eq_some_iff_getElem.mp h).1
    · exact (List.findIdx?_eq_some_iff_getElem.mp h).1

theorem find?_eq_none_iff {ref : SheetRef} : wb.find? ref = none ↔ wb.Misses ref := by
  rw [← locate?_eq_none_iff, find?, Option.bind_eq_none_iff]
  constructor
  · intro h
    cases hlocate : wb.locate? ref with
    | none => rfl
    | some i =>
      have hnone := h i hlocate
      rw [Option.map_eq_none_iff, List.getElem?_eq_none_iff] at hnone
      exact absurd (lt_of_locate? hlocate) (by omega)
  · intro h i hi
    rw [h] at hi
    cases hi

theorem resolve_eq_ok_iff {ref : SheetRef} {placed : PlacedSheet} :
    wb.resolve ref = .ok placed ↔ wb.find? ref = some placed := by
  rw [resolve]
  cases wb.find? ref <;> simp

theorem resolve_eq_error_iff {ref : SheetRef} {e : LayoutError} :
    wb.resolve ref = .error e ↔ wb.Misses ref ∧ e = .sheetNotFound ref wb.sheetNames := by
  rw [← find?_eq_none_iff, resolve]
  cases wb.find? ref <;> simp [eq_comm]

/-- A position leads to the sheet that stands there. -/
theorem resolve_index {i : Nat} {sheet : Sheet} (h : wb.sheets[i]? = some sheet) :
    wb.resolve (.index i) = .ok ⟨i, sheet⟩ := by
  obtain ⟨hlt, -⟩ := List.getElem?_eq_some_iff.mp h
  rw [resolve_eq_ok_iff, find?, locate?, if_pos hlt, Option.bind_some, h, Option.map_some]

/-- If the names are distinct, the exact name of a sheet leads to it, whatever other names agree
with it up to the case of ASCII letters. -/
theorem resolve_name (hnames : wb.sheetNames.Nodup) {i : Nat} {sheet : Sheet}
    (h : wb.sheets[i]? = some sheet) : wb.resolve (.name sheet.name) = .ok ⟨i, sheet⟩ := by
  obtain ⟨hlt, hget⟩ := List.getElem?_eq_some_iff.mp h
  have hexact : (wb.sheets.findIdx? fun other => other.name == sheet.name) = some i := by
    rw [List.findIdx?_eq_some_iff_getElem]
    refine ⟨hlt, by simp [hget], ?_⟩
    intro j hj hname
    have hsame : wb.sheetNames[j]? = wb.sheetNames[i]? := by
      have hlt' : j < wb.sheets.length := by omega
      rw [sheetNames, List.getElem?_map, List.getElem?_map, List.getElem?_eq_getElem hlt', h]
      simpa using hname
    have hij := (List.getElem?_inj (by simpa [sheetNames] using Nat.lt_trans hj hlt)
      hnames).mp hsame
    omega
  rw [resolve_eq_ok_iff, find?, locate?, position?, hexact, Option.some_or, Option.bind_some, h,
    Option.map_some]

/-- The reference by position to the sheet a reference leads to, if it leads to one. -/
def byIndex (wb : Workbook) (ref : SheetRef) : SheetRef :=
  match wb.find? ref with
  | some placed => .index placed.index
  | none => ref

/-- The reference by exact name to the sheet a reference leads to, if it leads to one. -/
def byName (wb : Workbook) (ref : SheetRef) : SheetRef :=
  match wb.find? ref with
  | some placed => .name placed.sheet.name
  | none => ref

theorem resolve_byIndex (wb : Workbook) (ref : SheetRef) :
    wb.resolve (wb.byIndex ref) = wb.resolve ref := by
  unfold byIndex
  split
  · next placed hfind =>
    have hresolve := resolve_eq_ok_iff.mpr hfind
    rw [hresolve, resolve_index (getElem?_of_resolve hresolve)]
  · rfl

theorem resolve_byName (hnames : wb.sheetNames.Nodup) (ref : SheetRef) :
    wb.resolve (wb.byName ref) = wb.resolve ref := by
  unfold byName
  split
  · next placed hfind =>
    have hresolve := resolve_eq_ok_iff.mpr hfind
    rw [hresolve, resolve_name hnames (getElem?_of_resolve hresolve)]
  · rfl

end Workbook

/-! ## Layouts with other references -/

namespace Categories

/-- The same choice of categories, with each reference replaced. -/
def mapRefs (f : SheetRef → SheetRef) : Categories → Categories
  | .listed refs => .listed (refs.map f)
  | .allAfterOverview => .allAfterOverview

end Categories

namespace Layout

variable {wb : Workbook}

/-- The layout with each of its references replaced. -/
def mapRefs (f : SheetRef → SheetRef) (layout : Layout) : Layout where
  overview := f layout.overview
  categories := layout.categories.mapRefs f

/-- A category sheet, which may not be the overview. -/
def resolveCategory (wb : Workbook) (overview : Nat) (ref : SheetRef) :
    Except LayoutError PlacedSheet := do
  let placed ← wb.resolve ref
  if placed.index = overview then .error (.overviewAsCategory placed.sheet.name) else .ok placed

/-- The listed sheets are looked up one after the other. -/
theorem resolveListed_eq_mapM (wb : Workbook) (overview : Nat) (refs : List SheetRef) :
    resolveListed wb overview refs = refs.mapM (resolveCategory wb overview) := by
  induction refs with
  | nil => rfl
  | cons ref refs ih =>
    rw [resolveListed, List.mapM_cons, resolveCategory, ih]
    cases wb.resolve ref with
    | error e => rfl
    | ok placed =>
      by_cases hoverview : placed.index = overview
      · simp [bind, Except.bind, hoverview]
      · simp [bind, Except.bind, hoverview, pure, Except.pure]

/-- What is selected depends on the overview and on the category sheets found from there. -/
theorem resolve_congr {layout other : Layout}
    (hoverview : wb.resolve layout.overview = wb.resolve other.overview)
    (hcategories : ∀ overview, wb.resolve layout.overview = .ok overview →
      resolveCategories wb overview.index layout.categories =
        resolveCategories wb overview.index other.categories) :
    layout.resolve wb = other.resolve wb := by
  rw [resolve, resolve, ← hoverview]
  cases h : wb.resolve layout.overview with
  | error e => rfl
  | ok overview => simp only [bind, Except.bind, hcategories overview h]

/-- References that lead to the same sheets select the same sheets. -/
theorem resolve_mapRefs {f : SheetRef → SheetRef} (h : ∀ ref, wb.resolve (f ref) = wb.resolve ref)
    (layout : Layout) : (layout.mapRefs f).resolve wb = layout.resolve wb := by
  refine resolve_congr (h layout.overview) fun overview _ => ?_
  rw [mapRefs]
  cases layout.categories with
  | allAfterOverview => rfl
  | listed refs =>
    rw [Categories.mapRefs, resolveCategories, resolveCategories, resolveListed_eq_mapM,
      resolveListed_eq_mapM, List.mapM_map]
    congr 1
    funext ref
    rw [Function.comp_apply, resolveCategory, resolveCategory, h]

/-! ## The sheets behind the overview -/

/-- References by position to all sheets behind a position. -/
def behind (wb : Workbook) (i : Nat) : List SheetRef :=
  (List.range' (i + 1) (wb.sheets.length - (i + 1))).map .index

theorem map_index_drop_placed (wb : Workbook) (i : Nat) :
    (wb.placed.drop (i + 1)).map PlacedSheet.index =
      List.range' (i + 1) (wb.sheets.length - (i + 1)) := by
  rw [List.map_drop, wb.map_index_placed, List.range_eq_range', List.drop_range']
  simp

/-- Listing the positions behind the overview comes to the rule that takes them all. -/
theorem resolveListed_behind (wb : Workbook) (i : Nat) :
    resolveListed wb i (behind wb i) = .ok (wb.placed.drop (i + 1)) := by
  rw [behind, ← map_index_drop_placed, List.map_map, resolveListed_eq_ok_iff,
    List.forall₂_map_left_iff, List.forall₂_same]
  intro placed hplaced
  have hindex : placed.index ∈ (wb.placed.drop (i + 1)).map PlacedSheet.index :=
    List.mem_map_of_mem hplaced
  rw [map_index_drop_placed, List.mem_range'_1] at hindex
  refine ⟨?_, by omega⟩
  exact Workbook.resolve_index (Workbook.getElem?_of_mem_placed (List.mem_of_mem_drop hplaced))

theorem resolve_rule {ref : SheetRef} {overview : PlacedSheet}
    (h : wb.resolve ref = .ok overview) :
    resolve { overview := ref, categories := .allAfterOverview } wb =
      resolve { overview := ref, categories := .listed (behind wb overview.index) } wb := by
  refine resolve_congr rfl fun placed hplaced => ?_
  obtain rfl : overview = placed := Except.ok.inj (h.symm.trans hplaced)
  rw [resolveCategories, resolveCategories, resolveListed_behind]

/-! ## What is selected -/

/-- A selection can always be made by listing category sheets. -/
theorem exists_listed {layout : Layout} {s : Selection} (h : layout.resolve wb = .ok s) :
    ∃ refs, resolve { overview := layout.overview, categories := .listed refs } wb = .ok s := by
  obtain ⟨overview, categories⟩ := layout
  cases categories with
  | listed refs => exact ⟨refs, h⟩
  | allAfterOverview =>
    obtain ⟨hoverview, -, -⟩ := resolve_eq_ok_iff.mp h
    exact ⟨behind wb s.overview.index, resolve_rule hoverview ▸ h⟩

theorem overview_notMem_categories {layout : Layout} {s : Selection}
    (h : layout.resolve wb = .ok s) :
    s.overview.index ∉ s.categories.map PlacedSheet.index := by
  obtain ⟨refs, hlisted⟩ := exists_listed h
  obtain ⟨-, hcategories, -⟩ := resolve_eq_ok_iff.mp hlisted
  intro hmem
  obtain ⟨placed, hplaced, hindex⟩ := List.mem_map.mp hmem
  obtain ⟨ref, -, -, hne⟩ :=
    Traversal.exists_of_forall₂ (resolveListed_eq_ok_iff.mp hcategories) hplaced
  exact hne hindex

/-- The positions of the selected sheets select them again. -/
theorem resolve_positions {layout : Layout} {s : Selection} (h : layout.resolve wb = .ok s) :
    resolve { overview := .index s.overview.index
              categories := .listed (s.categories.map fun placed => .index placed.index) } wb =
      .ok s := by
  obtain ⟨hoverview, -, hne⟩ := resolve_eq_ok_iff.mp h
  refine resolve_eq_ok_iff.mpr ⟨?_, ?_, hne⟩
  · exact Workbook.resolve_index (Workbook.getElem?_of_resolve hoverview)
  · rw [resolveCategories, resolveListed_eq_ok_iff, List.forall₂_map_left_iff, List.forall₂_same]
    intro placed hplaced
    refine ⟨Workbook.resolve_index (getElem?_of_mem_categories h hplaced), fun hindex => ?_⟩
    exact overview_notMem_categories h (hindex ▸ List.mem_map_of_mem hplaced)

/-! ## Why nothing is selected -/

/-- A reference leads to a sheet other than the overview. -/
def LeadsElsewhere (wb : Workbook) (overview : PlacedSheet) (ref : SheetRef) : Prop :=
  ∃ placed, wb.resolve ref = .ok placed ∧ placed.index ≠ overview.index

/-- The reasons for which a layout selects nothing: the overview is not found; of the listed
categories the first that does not lead elsewhere is not found, or is the overview; or there is no
category at all. -/
inductive Fails (wb : Workbook) (layout : Layout) : LayoutError → Prop where
  | overviewNotFound (h : wb.Misses layout.overview) :
      Fails wb layout (.sheetNotFound layout.overview wb.sheetNames)
  | categoryNotFound {overview : PlacedSheet} {before after : List SheetRef} {ref : SheetRef}
      (hoverview : wb.resolve layout.overview = .ok overview)
      (hcategories : layout.categories = .listed (before ++ ref :: after))
      (hbefore : ∀ earlier ∈ before, LeadsElsewhere wb overview earlier) (h : wb.Misses ref) :
      Fails wb layout (.sheetNotFound ref wb.sheetNames)
  | overviewAsCategory {overview : PlacedSheet} {before after : List SheetRef} {ref : SheetRef}
      (hoverview : wb.resolve layout.overview = .ok overview)
      (hcategories : layout.categories = .listed (before ++ ref :: after))
      (hbefore : ∀ earlier ∈ before, LeadsElsewhere wb overview earlier)
      (h : wb.resolve ref = .ok overview) :
      Fails wb layout (.overviewAsCategory overview.sheet.name)
  | noCategories {overview : PlacedSheet} (hoverview : wb.resolve layout.overview = .ok overview)
      (h : layout.categories = .listed [] ∨
        layout.categories = .allAfterOverview ∧ overview.index + 1 = wb.sheets.length) :
      Fails wb layout (.noCategorySheets overview.sheet.name)

theorem resolveCategory_eq_ok_iff {overview : Nat} {ref : SheetRef} {placed : PlacedSheet} :
    resolveCategory wb overview ref = .ok placed ↔
      wb.resolve ref = .ok placed ∧ placed.index ≠ overview := by
  rw [resolveCategory, Traversal.bind_eq_ok_iff]
  constructor
  · rintro ⟨found, hfound, hplaced⟩
    by_cases hoverview : found.index = overview
    · rw [if_pos hoverview] at hplaced
      cases hplaced
    · rw [if_neg hoverview] at hplaced
      obtain rfl := Except.ok.inj hplaced
      exact ⟨hfound, hoverview⟩
  · rintro ⟨hfound, hoverview⟩
    exact ⟨placed, hfound, if_neg hoverview⟩

theorem resolveCategory_eq_error_iff {overview : PlacedSheet}
    (hoverview : wb.sheets[overview.index]? = some overview.sheet) {ref : SheetRef}
    {e : LayoutError} :
    resolveCategory wb overview.index ref = .error e ↔
      wb.Misses ref ∧ e = .sheetNotFound ref wb.sheetNames ∨
        wb.resolve ref = .ok overview ∧ e = .overviewAsCategory overview.sheet.name := by
  rw [resolveCategory, Traversal.bind_eq_error_iff, Workbook.resolve_eq_error_iff]
  refine or_congr Iff.rfl ⟨?_, ?_⟩
  · rintro ⟨placed, hplaced, herror⟩
    by_cases hindex : placed.index = overview.index
    · obtain rfl := Workbook.placed_eq_of_index_eq (Workbook.getElem?_of_resolve hplaced)
        hoverview hindex
      rw [if_pos rfl] at herror
      exact ⟨hplaced, (Except.error.inj herror).symm⟩
    · rw [if_neg hindex] at herror
      cases herror
  · rintro ⟨hplaced, rfl⟩
    exact ⟨overview, hplaced, if_pos rfl⟩

theorem resolveListed_eq_error_iff {overview : PlacedSheet}
    (hoverview : wb.sheets[overview.index]? = some overview.sheet) {refs : List SheetRef}
    {e : LayoutError} :
    resolveListed wb overview.index refs = .error e ↔
      ∃ before ref after, refs = before ++ ref :: after ∧
        (∀ earlier ∈ before, LeadsElsewhere wb overview earlier) ∧
        (wb.Misses ref ∧ e = .sheetNotFound ref wb.sheetNames ∨
          wb.resolve ref = .ok overview ∧ e = .overviewAsCategory overview.sheet.name) := by
  rw [resolveListed_eq_mapM, Traversal.mapM_eq_error_iff]
  simp only [resolveCategory_eq_ok_iff, resolveCategory_eq_error_iff hoverview, LeadsElsewhere]

/-- Either the overview is at fault, or one of the categories, or there is none. -/
theorem resolve_eq_error_iff {layout : Layout} {e : LayoutError} :
    layout.resolve wb = .error e ↔
      wb.resolve layout.overview = .error e ∨
        ∃ overview, wb.resolve layout.overview = .ok overview ∧
          (resolveCategories wb overview.index layout.categories = .error e ∨
            resolveCategories wb overview.index layout.categories = .ok [] ∧
              e = .noCategorySheets overview.sheet.name) := by
  rw [resolve, Traversal.bind_eq_error_iff]
  refine or_congr Iff.rfl (exists_congr fun overview => and_congr_right fun _ => ?_)
  rw [Traversal.bind_eq_error_iff]
  refine or_congr Iff.rfl ⟨?_, ?_⟩
  · rintro ⟨categories, hcategories, herror⟩
    cases categories with
    | nil => exact ⟨hcategories, (Except.error.inj herror).symm⟩
    | cons placed rest => cases herror
  · rintro ⟨hcategories, rfl⟩
    exact ⟨[], hcategories, rfl⟩

theorem resolveCategories_eq_ok_nil_iff {overview : PlacedSheet} {categories : Categories}
    (hoverview : wb.sheets[overview.index]? = some overview.sheet) :
    resolveCategories wb overview.index categories = .ok [] ↔
      categories = .listed [] ∨
        categories = .allAfterOverview ∧ overview.index + 1 = wb.sheets.length := by
  cases categories with
  | listed refs =>
    rw [resolveCategories, resolveListed_eq_ok_iff, List.forall₂_nil_right_iff]
    simp
  | allAfterOverview =>
    obtain ⟨hlt, -⟩ := List.getElem?_eq_some_iff.mp hoverview
    have hlength : wb.placed.length = wb.sheets.length := by
      simpa using congrArg List.length wb.map_index_placed
    simp only [resolveCategories, Except.ok.injEq, List.drop_eq_nil_iff, hlength, reduceCtorEq,
      true_and, false_or]
    omega

/-- A layout selects nothing for one of the reasons given, and for no other. -/
theorem resolve_eq_error_iff_fails {layout : Layout} {e : LayoutError} :
    layout.resolve wb = .error e ↔ layout.Fails wb e := by
  rw [resolve_eq_error_iff]
  constructor
  · rintro (herror | ⟨overview, hoverview, hcategories | ⟨hnil, rfl⟩⟩)
    · obtain ⟨hmisses, rfl⟩ := Workbook.resolve_eq_error_iff.mp herror
      exact .overviewNotFound hmisses
    · have hplaced := Workbook.getElem?_of_resolve hoverview
      cases hlayout : layout.categories with
      | allAfterOverview =>
        rw [hlayout] at hcategories
        cases hcategories
      | listed refs =>
        rw [hlayout, resolveCategories, resolveListed_eq_error_iff hplaced] at hcategories
        obtain ⟨before, ref, after, rfl, hbefore, ⟨hmisses, rfl⟩ | ⟨href, rfl⟩⟩ := hcategories
        · exact .categoryNotFound hoverview hlayout hbefore hmisses
        · exact .overviewAsCategory hoverview hlayout hbefore href
    · have hplaced := Workbook.getElem?_of_resolve hoverview
      exact .noCategories hoverview ((resolveCategories_eq_ok_nil_iff hplaced).mp hnil)
  · intro hfails
    cases hfails with
    | overviewNotFound h => exact .inl (Workbook.resolve_eq_error_iff.mpr ⟨h, rfl⟩)
    | categoryNotFound hoverview hcategories hbefore h =>
      refine .inr ⟨_, hoverview, .inl ?_⟩
      rw [hcategories, resolveCategories,
        resolveListed_eq_error_iff (Workbook.getElem?_of_resolve hoverview)]
      exact ⟨_, _, _, rfl, hbefore, .inl ⟨h, rfl⟩⟩
    | overviewAsCategory hoverview hcategories hbefore h =>
      refine .inr ⟨_, hoverview, .inl ?_⟩
      rw [hcategories, resolveCategories,
        resolveListed_eq_error_iff (Workbook.getElem?_of_resolve hoverview)]
      exact ⟨_, _, _, rfl, hbefore, .inr ⟨h, rfl⟩⟩
    | noCategories hoverview h =>
      have hplaced := Workbook.getElem?_of_resolve hoverview
      exact .inr ⟨_, hoverview, .inr ⟨(resolveCategories_eq_ok_nil_iff hplaced).mpr h, rfl⟩⟩

/-! ## The index form -/

/-- All ways of referring to sheets come to the list of their positions. -/
structure IndexForm (wb : Workbook) (layout : Layout) : Prop where
  /-- There is a category, none is the overview, and the positions select the same sheets. -/
  selected : ∀ s, layout.resolve wb = .ok s →
    s.categories ≠ [] ∧ s.overview.index ∉ s.categories.map PlacedSheet.index ∧
      resolve { overview := .index s.overview.index
                categories := .listed (s.categories.map fun placed => .index placed.index) } wb =
        .ok s
  /-- Each reference may be replaced by the position it leads to. -/
  byIndex : (layout.mapRefs wb.byIndex).resolve wb = layout.resolve wb
  /-- If the names are distinct, each reference may be replaced by the exact name. -/
  byName : wb.sheetNames.Nodup → (layout.mapRefs wb.byName).resolve wb = layout.resolve wb
  /-- The rule comes to the list of the positions behind the overview, which is empty for the last
  sheet. -/
  rule : ∀ overview, wb.resolve layout.overview = .ok overview →
    resolve { layout with categories := .allAfterOverview } wb =
        resolve { layout with categories := .listed (behind wb overview.index) } wb ∧
      (overview.index + 1 = wb.sheets.length →
        resolve { layout with categories := .allAfterOverview } wb =
          .error (.noCategorySheets overview.sheet.name))
  /-- The error is that of the first reference at fault. -/
  fails : ∀ e, layout.resolve wb = .error e ↔ layout.Fails wb e

/-- Every layout has an index form in every workbook. -/
theorem indexForm (wb : Workbook) (layout : Layout) : layout.IndexForm wb where
  selected s h := ⟨(resolve_eq_ok_iff.mp h).2.2, overview_notMem_categories h, resolve_positions h⟩
  byIndex := resolve_mapRefs wb.resolve_byIndex layout
  byName hnames := resolve_mapRefs (Workbook.resolve_byName hnames) layout
  rule overview h := by
    refine ⟨resolve_rule h, fun hlast => resolve_eq_error_iff_fails.mpr ?_⟩
    exact .noCategories h (.inr ⟨rfl, hlast⟩)
  fails _ := resolve_eq_error_iff_fails

end Layout

end Conformance
