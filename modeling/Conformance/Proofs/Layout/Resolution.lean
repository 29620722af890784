import Conformance.Layout
import Conformance.Proofs.Traversal
import Mathlib.Data.List.Nodup
import Mathlib.Data.List.Perm.Basic

set_option autoImplicit false

/-!
# What decides a layout

Which sheets a layout selects, and why it selects none, depends on the names of the sheets alone:
two workbooks whose sheets have the same names in the same order either fail with the same error,
or the sheets selected stand at the same places (`resolve_agree`).

Listed category sheets are looked up one by one, so another order of the list selects the same
sheets in that order (`exists_resolve_of_perm`).
-/

namespace Conformance

/-! ## Outcomes that agree -/

/-- Two outcomes agree if they are the same error, or values that are related. -/
inductive Agree {ε α β : Type} (related : α → β → Prop) : Except ε α → Except ε β → Prop where
  | error (e : ε) : Agree related (.error e) (.error e)
  | ok {a : α} {b : β} (h : related a b) : Agree related (.ok a) (.ok b)

theorem Agree.error_or_ok {ε α β : Type} {related : α → β → Prop} {x : Except ε α} {y : Except ε β}
    (h : Agree related x y) :
    (∃ e, x = .error e ∧ y = .error e) ∨ ∃ a b, x = .ok a ∧ y = .ok b ∧ related a b := by
  cases h with
  | error e => exact Or.inl ⟨e, rfl, rfl⟩
  | ok h => exact Or.inr ⟨_, _, rfl, rfl, h⟩

/-- Computations agree if they agree so far and go on in agreement. -/
theorem Agree.bind {ε α β γ δ : Type} {related : α → β → Prop} {relatedNext : γ → δ → Prop}
    {x : Except ε α} {y : Except ε β} {f : α → Except ε γ} {g : β → Except ε δ}
    (h : Agree related x y) (hnext : ∀ a b, related a b → Agree relatedNext (f a) (g b)) :
    Agree relatedNext (x >>= f) (y >>= g) := by
  cases h with
  | error e => exact .error e
  | ok h => exact hnext _ _ h

namespace PlacedSheet

/-- The place of a sheet and the name it has there. -/
def place (placed : PlacedSheet) : Nat × String := (placed.index, placed.sheet.name)

end PlacedSheet

namespace Workbook

variable {wb other : Workbook}

theorem length_sheets_congr (h : wb.sheetNames = other.sheetNames) :
    wb.sheets.length = other.sheets.length := by
  have := congrArg List.length h
  simpa [sheetNames] using this

theorem position?_congr (h : wb.sheetNames = other.sheetNames) (name : String) :
    wb.position? name = other.position? name := by
  have hnames : ∀ (p : String → Bool) (w : Workbook),
      (w.sheets.findIdx? fun sheet => p sheet.name) = w.sheetNames.findIdx? p := by
    intro p w
    rw [sheetNames, List.findIdx?_map]
    rfl
  unfold position?
  rw [hnames (· == name), hnames (· == name), hnames (Text.sameName · name),
    hnames (Text.sameName · name), h]

theorem locate?_congr (h : wb.sheetNames = other.sheetNames) (ref : SheetRef) :
    wb.locate? ref = other.locate? ref := by
  cases ref with
  | index i => rw [locate?, locate?, length_sheets_congr h]
  | name text => rw [locate?, locate?, position?_congr h]

/-- The place a reference leads to is read off the names. -/
theorem map_place_find? (w : Workbook) (ref : SheetRef) :
    (w.find? ref).map PlacedSheet.place =
      (w.locate? ref).bind fun i => w.sheetNames[i]?.map fun name => (i, name) := by
  rw [find?, Option.map_bind]
  congr 1
  funext i
  rw [Function.comp_apply, sheetNames, List.getElem?_map, Option.map_map, Option.map_map]
  rfl

theorem resolve_agree (h : wb.sheetNames = other.sheetNames) (ref : SheetRef) :
    Agree (fun a b => a.place = b.place) (wb.resolve ref) (other.resolve ref) := by
  have hplace : (wb.find? ref).map PlacedSheet.place = (other.find? ref).map PlacedSheet.place := by
    rw [map_place_find?, map_place_find?, locate?_congr h, h]
  unfold resolve
  cases hleft : wb.find? ref with
  | none =>
    rw [hleft, Option.map_none, eq_comm, Option.map_eq_none_iff] at hplace
    rw [hplace, h]
    exact .error _
  | some placed =>
    rw [hleft, Option.map_some, eq_comm, Option.map_eq_some_iff] at hplace
    obtain ⟨found, hfound, hsame⟩ := hplace
    rw [hfound]
    exact .ok hsame.symm

/-- The places of all sheets are read off the names. -/
theorem map_place_placed (w : Workbook) :
    w.placed.map PlacedSheet.place = w.sheetNames.zipIdx.map Prod.swap := by
  rw [placed, sheetNames, List.zipIdx_map, List.map_map, List.map_map]
  rfl

theorem getElem?_of_resolve {ref : SheetRef} {placed : PlacedSheet}
    (h : wb.resolve ref = .ok placed) : wb.sheets[placed.index]? = some placed.sheet := by
  unfold resolve at h
  split at h
  · next found hfound =>
    cases h
    obtain ⟨i, -, hmap⟩ := Option.bind_eq_some_iff.mp hfound
    obtain ⟨sheet, hsheet, rfl⟩ := Option.map_eq_some_iff.mp hmap
    exact hsheet
  · cases h

theorem getElem?_of_mem_placed {placed : PlacedSheet} (h : placed ∈ wb.placed) :
    wb.sheets[placed.index]? = some placed.sheet := by
  obtain ⟨⟨sheet, i⟩, hentry, rfl⟩ := List.mem_map.mp h
  exact List.mk_mem_zipIdx_iff_getElem?.mp hentry

/-- The sheets stand in the order of their positions. -/
theorem map_index_placed (wb : Workbook) :
    wb.placed.map PlacedSheet.index = List.range wb.sheets.length := by
  rw [placed, List.map_map, List.range_eq_range']
  exact List.zipIdx_map_snd 0 wb.sheets

theorem nodup_placed (wb : Workbook) : wb.placed.Nodup :=
  List.Nodup.of_map PlacedSheet.index (wb.map_index_placed ▸ List.nodup_range)

/-- There is one sheet at a position. -/
theorem placed_eq_of_index_eq {a b : PlacedSheet} (ha : wb.sheets[a.index]? = some a.sheet)
    (hb : wb.sheets[b.index]? = some b.sheet) (h : a.index = b.index) : a = b := by
  have hsheet : a.sheet = b.sheet := by
    rw [h, hb] at ha
    exact (Option.some.inj ha).symm
  cases a
  cases b
  cases h
  cases hsheet
  rfl

/-- Where the names are distinct, a name is found in one place only. -/
theorem placed_eq_of_name_eq (hnames : wb.sheetNames.Nodup) {a b : PlacedSheet}
    (ha : wb.sheets[a.index]? = some a.sheet) (hb : wb.sheets[b.index]? = some b.sheet)
    (h : a.sheet.name = b.sheet.name) : a = b := by
  have hname : ∀ placed : PlacedSheet, wb.sheets[placed.index]? = some placed.sheet →
      wb.sheetNames[placed.index]? = some placed.sheet.name := by
    intro placed hplaced
    rw [sheetNames, List.getElem?_map, hplaced, Option.map_some]
  obtain ⟨hlt, -⟩ := List.getElem?_eq_some_iff.mp (hname a ha)
  exact placed_eq_of_index_eq ha hb
    ((List.getElem?_inj hlt hnames).mp ((hname a ha).trans (h ▸ (hname b hb).symm)))

end Workbook

namespace Selection

/-- The places of the sheets selected. -/
def places (s : Selection) : (Nat × String) × List (Nat × String) :=
  (s.overview.place, s.categories.map PlacedSheet.place)

end Selection

namespace Layout

variable {wb other : Workbook}

theorem resolveListed_agree (h : wb.sheetNames = other.sheetNames) (overview : Nat)
    (refs : List SheetRef) :
    Agree (fun a b => a.map PlacedSheet.place = b.map PlacedSheet.place)
      (resolveListed wb overview refs) (resolveListed other overview refs) := by
  induction refs with
  | nil => exact .ok rfl
  | cons ref refs ih =>
    refine (Workbook.resolve_agree h ref).bind fun placed found hplace => ?_
    obtain ⟨hindex, hname⟩ := Prod.mk.inj hplace
    rw [hindex]
    by_cases hoverview : found.index = overview
    · rw [if_pos hoverview, if_pos hoverview, hname]
      exact .error _
    · rw [if_neg hoverview, if_neg hoverview]
      refine ih.bind fun rest others hrest => .ok ?_
      rw [List.map_cons, List.map_cons, hplace, hrest]

theorem resolveCategories_agree (h : wb.sheetNames = other.sheetNames) (overview : Nat)
    (categories : Categories) :
    Agree (fun a b => a.map PlacedSheet.place = b.map PlacedSheet.place)
      (resolveCategories wb overview categories) (resolveCategories other overview categories) := by
  cases categories with
  | listed refs => exact resolveListed_agree h overview refs
  | allAfterOverview =>
    refine .ok ?_
    rw [List.map_drop, List.map_drop, Workbook.map_place_placed, Workbook.map_place_placed, h]

/-- A layout leads to the same places in workbooks whose sheets have the same names. -/
theorem resolve_agree (h : wb.sheetNames = other.sheetNames) (layout : Layout) :
    Agree (fun a b => a.places = b.places) (layout.resolve wb) (layout.resolve other) := by
  refine (Workbook.resolve_agree h layout.overview).bind fun overview found hoverview => ?_
  obtain ⟨hindex, hname⟩ := Prod.mk.inj hoverview
  rw [hindex]
  refine (resolveCategories_agree h _ _).bind fun categories others hcategories => ?_
  have hlength : categories.length = others.length := by
    simpa using congrArg List.length hcategories
  have hempty : categories.isEmpty = others.isEmpty := by
    cases categories <;> cases others <;> simp_all
  rw [hempty]
  cases others.isEmpty with
  | true =>
    rw [if_pos rfl, if_pos rfl, hname]
    exact .error _
  | false =>
    rw [if_neg (by simp), if_neg (by simp)]
    exact .ok (by rw [Selection.places, Selection.places, hoverview, hcategories])

end Layout

/-! ## The order of the categories -/

/-- Two selections of the same sheets, which may differ in the order of the categories. -/
structure Selection.Permutes (s t : Selection) : Prop where
  overview : s.overview = t.overview
  categories : s.categories.Perm t.categories

namespace Layout

variable {wb : Workbook}

theorem resolveListed_cons_eq_ok_iff {overview : Nat} {ref : SheetRef} {refs : List SheetRef}
    {found : List PlacedSheet} :
    resolveListed wb overview (ref :: refs) = .ok found ↔
      ∃ placed rest, (wb.resolve ref = .ok placed ∧ placed.index ≠ overview) ∧
        resolveListed wb overview refs = .ok rest ∧ found = placed :: rest := by
  rw [resolveListed, Traversal.bind_eq_ok_iff]
  constructor
  · rintro ⟨placed, hplaced, hrest⟩
    by_cases hoverview : placed.index = overview
    · rw [if_pos hoverview] at hrest
      cases hrest
    · rw [if_neg hoverview, Traversal.bind_eq_ok_iff] at hrest
      obtain ⟨rest, hrest, hfound⟩ := hrest
      exact ⟨placed, rest, ⟨hplaced, hoverview⟩, hrest, (Except.ok.inj hfound).symm⟩
  · rintro ⟨placed, rest, ⟨hplaced, hoverview⟩, hrest, rfl⟩
    refine ⟨placed, hplaced, ?_⟩
    rw [if_neg hoverview, hrest]
    rfl

/-- Listed sheets are found one by one, and none is the overview. -/
theorem resolveListed_eq_ok_iff {overview : Nat} {refs : List SheetRef}
    {found : List PlacedSheet} :
    resolveListed wb overview refs = .ok found ↔
      List.Forall₂ (fun ref placed => wb.resolve ref = .ok placed ∧ placed.index ≠ overview)
        refs found := by
  induction refs generalizing found with
  | nil => simp [resolveListed, eq_comm]
  | cons ref refs ih =>
    rw [resolveListed_cons_eq_ok_iff, List.forall₂_cons_left_iff]
    simp only [ih]

theorem resolve_eq_ok_iff {layout : Layout} {selection : Selection} :
    layout.resolve wb = .ok selection ↔
      wb.resolve layout.overview = .ok selection.overview ∧
        resolveCategories wb selection.overview.index layout.categories =
          .ok selection.categories ∧
        selection.categories ≠ [] := by
  rw [resolve, Traversal.bind_eq_ok_iff]
  simp only [Traversal.bind_eq_ok_iff]
  constructor
  · rintro ⟨overview, hoverview, categories, hcategories, h⟩
    cases categories with
    | nil => cases h
    | cons placed rest =>
      cases h
      exact ⟨hoverview, hcategories, List.cons_ne_nil placed rest⟩
  · rintro ⟨hoverview, hcategories, hne⟩
    refine ⟨selection.overview, hoverview, selection.categories, hcategories, ?_⟩
    rw [if_neg (by simpa using hne)]

/-! ## Where the selected sheets stand -/

/-- The category sheets stand in the workbook at their indices. -/
theorem getElem?_of_mem_categories {layout : Layout} {s : Selection}
    (h : layout.resolve wb = .ok s) {placed : PlacedSheet} (hplaced : placed ∈ s.categories) :
    wb.sheets[placed.index]? = some placed.sheet := by
  obtain ⟨-, hcategories, -⟩ := resolve_eq_ok_iff.mp h
  cases hlayout : layout.categories with
  | listed refs =>
    rw [hlayout] at hcategories
    obtain ⟨ref, -, hresolve, -⟩ :=
      Traversal.exists_of_forall₂ (resolveListed_eq_ok_iff.mp hcategories) hplaced
    exact Workbook.getElem?_of_resolve hresolve
  | allAfterOverview =>
    rw [hlayout, resolveCategories, Except.ok.injEq] at hcategories
    rw [← hcategories] at hplaced
    exact Workbook.getElem?_of_mem_placed (List.mem_of_mem_drop hplaced)

/-- All sheets behind the overview are different ones. -/
theorem nodup_categories {layout : Layout} {s : Selection} (h : layout.resolve wb = .ok s)
    (hlayout : layout.categories = .allAfterOverview) : s.categories.Nodup := by
  obtain ⟨-, hcategories, -⟩ := resolve_eq_ok_iff.mp h
  rw [hlayout, resolveCategories, Except.ok.injEq] at hcategories
  rw [← hcategories]
  exact (Workbook.nodup_placed wb).sublist (List.drop_sublist _ _)

/-- Listing the same sheets in another order selects the same sheets. -/
theorem exists_resolve_of_perm {overview : SheetRef} {refs others : List SheetRef}
    (h : refs.Perm others) {s : Selection}
    (hresolve : resolve { overview, categories := .listed refs } wb = .ok s) :
    ∃ t, resolve { overview, categories := .listed others } wb = .ok t ∧ s.Permutes t := by
  obtain ⟨hoverview, hcategories, hne⟩ := resolve_eq_ok_iff.mp hresolve
  obtain ⟨found, hfound, hperm⟩ :=
    List.perm_comp_forall₂ h.symm (resolveListed_eq_ok_iff.mp hcategories)
  refine ⟨⟨s.overview, found⟩, resolve_eq_ok_iff.mpr ⟨hoverview, ?_, ?_⟩, rfl, hperm.symm⟩
  · exact resolveListed_eq_ok_iff.mpr hfound
  · intro hnil
    subst hnil
    exact hne hperm.nil_eq.symm

end Layout

end Conformance
