import Conformance.Text.Blank
import Conformance.Text.Segments

set_option autoImplicit false

/-!
# Comma-separated cells

A parameter cell or a reference cell holds a list of items between commas.  White space around an
item does not belong to it.  Empty items between commas are kept, so that an item's position in
the list is its position in the cell; empty items at the end are dropped, however many there are.
-/

namespace Conformance.Text

/-- A list without the empty items at its end. -/
def dropEmptyTail (items : List (List Char)) : List (List Char) :=
  (items.reverse.dropWhile List.isEmpty).reverse

/-- The trimmed items of a cell, on characters. -/
def itemChars (cs : List Char) : List (List Char) :=
  dropEmptyTail ((segments ',' cs).map trimChars)

/-- The trimmed items of a comma-separated cell, in order. -/
def items (cell : String) : List String :=
  (itemChars cell.toList).map String.ofList

/-- The cell that lists the given items. -/
def joinItems (items : List String) : String := ",".intercalate items

end Conformance.Text
