import Conformance.Json.Written
import Conformance.Options

set_option autoImplicit false

/-!
# Options in documents

Options and layout files are JSON documents.  A sheet is referred to by a natural number below
`2 ^ 64` or by a string, and the one rule for categories and the policies go by their names.  A
record may be written as an object or as the list of its fields in order.
-/

namespace Conformance

namespace Json

/-- A name that stands alone, or as the only member of an object with null for its value. -/
def tag? : Json → Option String
  | .string name => name
  | .object [(name, .null)] => name
  | _ => none

/-- The value of a known field in an object; a field may not occur twice. -/
def field? (members : List (Option String × Json)) (name : String) : Option (Option Json) :=
  match members.filter fun member => member.1 == some name with
  | [] => some none
  | [(_, value)] => some (some value)
  | _ => none

/-- The values of the known fields of a record.  As an object it may leave out any of them and, if
it is not `closed`, have others besides; as a list it may leave out the last ones. -/
def fields? (names : List String) (closed : Bool) : Json → Option (List (Option Json))
  | .array items =>
    if items.length ≤ names.length then
      some (items.map some ++ List.replicate (names.length - items.length) none)
    else none
  | .object members =>
    let permitted (key : Option String) : Bool :=
      match key with
      | some key => !closed || names.contains key
      | none => false
    if members.all fun member => permitted member.1 then names.mapM (field? members) else none
  | _ => none

/-- The value of a field that takes a default where it is left out. -/
def orDefault {α : Type} (read : Json → Option α) (default : α) : Option Json → Option α
  | none => some default
  | some value => read value

/-- The value of a field that may be null as well as left out. -/
def orNull {α : Type} (read : Json → Option α) : Option Json → Option (Option α)
  | none | some .null => some none
  | some value => (read value).map some

end Json

/-- The number of references by position that documents can write. -/
def positionLimit : Nat := Nat.pow 2 64

namespace SheetRef

/-- Reads a reference. -/
def ofJson? : Json → Option SheetRef
  | .string text => text.map .name
  | .number n => do
    let position ← n.natural?
    if position < positionLimit then some (.index position) else none
  | _ => none

/-- Writes a reference. -/
def toJson : SheetRef → Json
  | .index position => .number (.ofNat position)
  | .name text => .string (some text)

end SheetRef

namespace Categories

/-- The name of the rule that takes every sheet after the overview. -/
def ruleName : String := "allAfterOverview"

/-- Reads which sheets define steps. -/
def ofJson? : Json → Option Categories
  | .array items => (items.mapM SheetRef.ofJson?).map .listed
  | value => if value.tag? = some ruleName then some .allAfterOverview else none

/-- Writes which sheets define steps. -/
def toJson : Categories → Json
  | .listed refs => .array (refs.map SheetRef.toJson)
  | .allAfterOverview => .string (some ruleName)

end Categories

namespace DuplicatePolicy

/-- Reads a policy. -/
def ofJson? (value : Json) : Option DuplicatePolicy := value.tag?.bind ofName?

/-- Writes a policy. -/
def toJson (policy : DuplicatePolicy) : Json := .string (some policy.name)

end DuplicatePolicy

namespace Layout

/-- The fields of a layout in order. -/
def fieldNames : List String := ["overview", "categories"]

/-- Reads a layout. -/
def ofJson? (value : Json) : Option Layout := do
  match ← value.fields? fieldNames false with
  | [overview, categories] =>
    let overview ← Json.orDefault SheetRef.ofJson? ({} : Layout).overview overview
    let categories ← Json.orDefault Categories.ofJson? ({} : Layout).categories categories
    return { overview, categories }
  | _ => none

/-- Writes a layout in full. -/
def toJson (layout : Layout) : Json :=
  .object [(some "overview", layout.overview.toJson), (some "categories", layout.categories.toJson)]

/-- The layout that a document holds. -/
def ofText? (text : String) : Option Layout := (Json.ofText? text).bind ofJson?

end Layout

namespace Options

/-- The fields of options in order. -/
def fieldNames : List String := ["layout", "onDuplicate"]

/-- Reads options. -/
def ofJson? (value : Json) : Option Options := do
  match ← value.fields? fieldNames false with
  | [layout, onDuplicate] =>
    let layout ← Json.orDefault Layout.ofJson? ({} : Options).layout layout
    let onDuplicate ←
      Json.orDefault DuplicatePolicy.ofJson? ({} : Options).onDuplicate onDuplicate
    return { layout, onDuplicate }
  | _ => none

/-- Writes options in full. -/
def toJson (options : Options) : Json :=
  .object [(some "layout", options.layout.toJson),
    (some "onDuplicate", options.onDuplicate.toJson)]

/-- The options that a document holds. -/
def ofText? (text : String) : Option Options := (Json.ofText? text).bind ofJson?

/-- The document of options, written in full. -/
def text (options : Options) : String := options.toJson.text

end Options

namespace Settings

/-- The fields of a layout file in order. -/
def fieldNames : List String := ["overview", "categories", "onDuplicate"]

/-- Reads the settings of a layout file, which has no other fields. -/
def ofJson? (value : Json) : Option Settings := do
  match ← value.fields? fieldNames true with
  | [overview, categories, onDuplicate] =>
    let overview ← Json.orNull SheetRef.ofJson? overview
    let categories ← Json.orNull Categories.ofJson? categories
    let onDuplicate ← Json.orNull DuplicatePolicy.ofJson? onDuplicate
    return { overview, categories, onDuplicate }
  | _ => none

/-- The settings that a layout file holds. -/
def ofText? (text : String) : Option Settings := (Json.ofText? text).bind ofJson?

end Settings

end Conformance
