import Conformance.Workbook

set_option autoImplicit false

/-!
# Layouts

A layout says which sheet lists the test cases and which sheets define steps.  Unless told
otherwise, the second sheet is the overview and every sheet after it defines steps.  Resolving a
layout against a workbook fails at the first reference that leads nowhere, overview first, at a
category that is the overview itself, and when no category is left.
-/

namespace Conformance

/-- Which sheets define steps. -/
inductive Categories where
  | listed (refs : List SheetRef)
  | allAfterOverview
  deriving DecidableEq, Repr, Inhabited

/-- The roles of the sheets of a workbook. -/
structure Layout where
  overview : SheetRef := .index 1
  categories : Categories := .allAfterOverview
  deriving DecidableEq, Repr, Inhabited

/-- Why a layout does not fit a workbook. -/
inductive LayoutError where
  | sheetNotFound (ref : SheetRef) (available : List String)
  | noCategorySheets (overview : String)
  | overviewAsCategory (name : String)
  deriving DecidableEq, Repr

namespace LayoutError

/-- The text shown for the error. -/
def message : LayoutError → String
  | .sheetNotFound ref available =>
    let names := ", ".intercalate available
    s!"sheet {ref.text} not found (available sheets: {names})"
  | .noCategorySheets overview =>
    s!"no category sheets selected (overview sheet is '{overview}')"
  | .overviewAsCategory name =>
    s!"sheet '{name}' cannot be both the overview and a category sheet"

end LayoutError

namespace Workbook

/-- The sheet a reference points to. -/
def resolve (wb : Workbook) (ref : SheetRef) : Except LayoutError PlacedSheet :=
  match wb.find? ref with
  | some placed => .ok placed
  | none => .error (.sheetNotFound ref wb.sheetNames)

end Workbook

/-- The sheets a layout selects: the overview, and the categories in scan order. -/
structure Selection where
  overview : PlacedSheet
  categories : List PlacedSheet
  deriving DecidableEq, Repr

namespace Layout

/-- The listed category sheets, none of which may be the overview. -/
def resolveListed (wb : Workbook) (overview : Nat) :
    List SheetRef → Except LayoutError (List PlacedSheet)
  | [] => .ok []
  | ref :: refs => do
    let placed ← wb.resolve ref
    if placed.index = overview then
      .error (.overviewAsCategory placed.sheet.name)
    else
      let rest ← resolveListed wb overview refs
      .ok (placed :: rest)

/-- The category sheets, given the position of the overview. -/
def resolveCategories (wb : Workbook) (overview : Nat) :
    Categories → Except LayoutError (List PlacedSheet)
  | .allAfterOverview => .ok (wb.placed.drop (overview + 1))
  | .listed refs => resolveListed wb overview refs

/-- The sheets that a layout selects in a workbook. -/
def resolve (layout : Layout) (wb : Workbook) : Except LayoutError Selection := do
  let overview ← wb.resolve layout.overview
  let categories ← resolveCategories wb overview.index layout.categories
  if categories.isEmpty then
    .error (.noCategorySheets overview.sheet.name)
  else
    .ok ⟨overview, categories⟩

end Layout

end Conformance
