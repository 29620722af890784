import Conformance.Sql.Grammar.Name

set_option autoImplicit false

/-!
# Units of time

The parts of a date, and the qualifier that tells which of them a span of time counts.
-/

namespace Conformance.Sql.Grammar

open Conformance.Sql.Parser

/-- Units of time. -/
def timeUnits : List Keyword :=
  [.YEAR, .YEARS, .MONTH, .MONTHS, .WEEK, .WEEKS, .DAY, .DAYS, .HOUR, .HOURS, .MINUTE, .MINUTES,
   .SECOND, .SECONDS, .CENTURY, .DECADE, .DOW, .DOY, .EPOCH, .ISODOW, .ISOYEAR, .JULIAN,
   .MICROSECOND, .MICROSECONDS, .MILLENIUM, .MILLENNIUM, .MILLISECOND, .MILLISECONDS,
   .NANOSECOND, .NANOSECONDS, .QUARTER, .TIMEZONE, .TIMEZONE_HOUR, .TIMEZONE_MINUTE]

/-- Parts of a date that are no units of time. -/
def dateParts : List Keyword :=
  [.DATE, .DATETIME, .DAYOFWEEK, .DAYOFYEAR, .ISOWEEK, .TIME, .TIMEZONE_ABBR, .TIMEZONE_REGION]

/-- A part of a date. -/
def datePart : Parser Keyword := needOneOf (timeUnits ++ dateParts)

/-- A precision and perhaps a scale between parentheses, if there are any. -/
def optionalPrecisionScale : Parser Unit := do
  if ← token .leftParen then
    void unsignedInteger
    if ← token .comma then void unsignedInteger
    expect .rightParen

/-- What follows the number of units in a span of time: the unit, its precision, and a smaller unit
to count down to.  All of it may be missing. -/
def intervalQualifier : Parser Unit := do
  let leading ← oneOf timeUnits
  if leading == some .SECOND then optionalPrecisionScale
  else
    optionalPrecision
    if ← keyword .TO then
      if (← datePart) == .SECOND then optionalPrecision

end Conformance.Sql.Grammar
