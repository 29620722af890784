import Conformance.Layout
import Conformance.Step.Catalog

set_option autoImplicit false

/-!
# Options

How a workbook is to be converted.  Each option can be left open by the command line and by a
layout file; the command line is asked first, then the file, and what both leave open takes its
default.
-/

namespace Conformance

/-- How a workbook is to be converted. -/
structure Options where
  layout : Layout := {}
  onDuplicate : DuplicatePolicy := .reject
  deriving DecidableEq, Repr, Inhabited

/-- Options of which each may be left open. -/
structure Settings where
  overview : Option SheetRef := none
  categories : Option Categories := none
  onDuplicate : Option DuplicatePolicy := none
  deriving DecidableEq, Repr, Inhabited

namespace Settings

/-- The settings, with what they leave open taken from others. -/
def orElse (settings others : Settings) : Settings where
  overview := settings.overview.or others.overview
  categories := settings.categories.or others.categories
  onDuplicate := settings.onDuplicate.or others.onDuplicate

/-- The settings, with defaults for what they leave open. -/
def options (settings : Settings) : Options where
  layout :=
    { overview := settings.overview.getD ({} : Layout).overview
      categories := settings.categories.getD ({} : Layout).categories }
  onDuplicate := settings.onDuplicate.getD ({} : Options).onDuplicate

end Settings

end Conformance
