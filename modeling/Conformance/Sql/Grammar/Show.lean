import Conformance.Sql.Grammar.Level

set_option autoImplicit false

/-!
# Listings

`SHOW`: what is listed, where it is looked for, and which entries are kept.
-/

namespace Conformance.Sql.Grammar

open Conformance.Sql.Parser

section

variable (level : Level)

/-- A condition on the entries, if there is one. -/
def optionalFilter : Parser Unit := do
  if ← anyOf [.LIKE, .ILIKE] then void textLiteral
  else if ← keyword .WHERE then void (expression level .normal)
  else void (attempt textLiteral)

/-- Where entries are looked for, if it is said. -/
def optionalPlace : Parser Unit := do
  if ← anyOf [.FROM, .IN] then
    match ← oneOf [.ACCOUNT, .DATABASE, .SCHEMA, .TABLE, .VIEW] with
    | some k =>
      let unnamed ← if k == .DATABASE || k == .SCHEMA then do
          if ← phraseAhead [.STARTS, .WITH] then pure true else ahead [.LIMIT]
        else pure false
      unless unnamed do void (attempt objectName)
    | none =>
      void objectName
      if ← anyOf [.FROM, .IN] then void identifier

/-- Which entries are listed, and how many. -/
def listingOptions : Parser Unit := do
  optionalPlace
  optionalFilter level
  phraseClause [.STARTS, .WITH] value
  if ← keyword .LIMIT then
    unless ← keyword .ALL do void (expression level .normal)
  clause .FROM value

/-- A listing; `SHOW` has been read.  Any words at all are the name of a setting to show. -/
def showBody : Parser Unit := do
  skip [.TERSE]
  let extended ← keyword .EXTENDED
  let full ← keyword .FULL
  skip [.SESSION]
  skip [.GLOBAL]
  skip [.EXTERNAL]
  if ← onePhrase [[.COLUMNS], [.FIELDS], [.TABLES], [.MATERIALIZED, .VIEWS], [.VIEWS]] then
    listingOptions level
  else if ← keyword .FUNCTIONS then optionalFilter level
  else if extended || full then unexpected
  else if ← keyword .CREATE then
    let _ ← needOneOf [.TABLE, .TRIGGER, .FUNCTION, .PROCEDURE, .EVENT, .VIEW]
    void objectName
  else if ← keyword .COLLATION then optionalFilter level
  else
    skip [.VARIABLES]
    skip [.STATUS]
    if ← anyOf [.DATABASES, .SCHEMAS] then
      skip [.HISTORY]
      listingOptions level
    else if ← onePhrase [[.CHARACTER, .SET], [.CHARSET]] then optionalFilter level

end

end Conformance.Sql.Grammar
