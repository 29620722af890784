import Conformance.Sql.Grammar.Routine

set_option autoImplicit false

/-!
# Removals

`DROP` and what it may remove.
-/

namespace Conformance.Sql.Grammar

open Conformance.Sql.Parser

/-- What happens to objects that depend on a removed one. -/
def optionalDropBehavior : Parser Unit := skip [.CASCADE, .RESTRICT]

/-- The names of removed objects and what happens to their dependents. -/
def removedNames : Parser Unit := do
  optionalIfExists
  listOf objectName
  let cascade ← keyword .CASCADE
  let restrict ← keyword .RESTRICT
  if cascade && restrict then unexpected
  skip [.PURGE]
  clause .ON objectName

/-- The names of removed roles, which have no dependents. -/
def removedRoles : Parser Unit := do
  optionalIfExists
  listOf objectName
  if ← ahead [.CASCADE, .RESTRICT, .PURGE] then unexpected
  clause .ON objectName

/-- The place of a removed secret; any token will do. -/
def removedSecret : Parser Unit := do
  optionalIfExists
  void identifier
  clause .FROM identifierOrToken

/-- A removal; `DROP` has been read. -/
def dropBody (level : Level) : Parser Unit := do
  if ← phrase [.MATERIALIZED, .VIEW] then removedNames
  else
    match ← next? with
    | some (.word _ (some k)) =>
      match k with
      | .TABLE | .VIEW | .INDEX | .SCHEMA | .DATABASE | .SEQUENCE | .STAGE | .TYPE | .USER
      | .STREAM => removedNames
      | .ROLE => removedRoles
      | .FUNCTION | .PROCEDURE =>
        optionalIfExists
        listOf (signature level)
      | .POLICY =>
        optionalIfExists
        void identifier
        need .ON
        void objectName
      | .CONNECTOR =>
        optionalIfExists
        void identifier
      | .DOMAIN =>
        optionalIfExists
        void objectName
      | .SECRET => removedSecret
      | .EXTENSION =>
        optionalIfExists
        listOf identifier
      | _ => unexpected
    | _ => unexpected

end Conformance.Sql.Grammar
