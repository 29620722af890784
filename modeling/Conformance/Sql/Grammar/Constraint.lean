import Conformance.Sql.Grammar.DataType

set_option autoImplicit false

/-!
# Constraints of a table

Keys, references and conditions between the parentheses of a table definition, and the columns of
an index, which keys are made of.
-/

namespace Conformance.Sql.Grammar

open Conformance.Sql.Parser

/-- The kind of an index after `USING`, if it is given. -/
def optionalIndexType : Parser Unit := clause .USING identifier

/-- Options after the columns of an index. -/
def indexOptions : Parser Unit :=
  whileTrue do
    if ← keyword .USING then
      void identifier
      return true
    else if ← keyword .COMMENT then
      void textLiteral
      return true
    else return false

/-- Whether a constraint is enforced. -/
def optionalEnforced : Parser Unit := do
  unless ← keyword .ENFORCED do skipPhrase [.NOT, .ENFORCED]

section

variable (level : Level)

/-- A column of an index: an expression with an operator class and a direction. -/
def indexColumn : Parser Unit := do
  void (expression level .normal)
  unless ← ahead [.ASC, .DESC, .NULLS, .WITH] do void (attempt identifier)
  orderOptions

/-- The columns of an index. -/
def indexColumns : Parser Unit := listIn (indexColumn level)

/-- The columns and options of a key, with an optional name. -/
def keyBody : Parser Unit := do
  void (attempt identifier)
  optionalIndexType
  indexColumns level
  indexOptions
  constraintCharacteristics

/-- A constraint of a table; tells whether there is one. -/
def tableConstraint : Parser Bool := do
  let named ← keyword .CONSTRAINT
  if named then void identifier
  match ← oneOf [.UNIQUE, .PRIMARY, .FOREIGN, .CHECK] with
  | some .UNIQUE =>
    if ← anyOf [.KEY, .INDEX] then unexpected
    if ← keyword .NULLS then
      skip [.NOT]
      need .DISTINCT
    keyBody level
    return true
  | some .PRIMARY =>
    need .KEY
    keyBody level
    return true
  | some .FOREIGN =>
    need .KEY
    void (attempt identifier)
    listIn identifier
    need .REFERENCES
    referencesBody
    return true
  | some _ =>
    condition level
    optionalEnforced
    return true
  | none => if named then unexpected else return false

end

end Conformance.Sql.Grammar
