import Conformance.Sql.Grammar.Level

set_option autoImplicit false

/-!
# Options of a column

What follows the name and the type of a column: constraints, defaults, generated values.  The
definition of a column is stated here for any reader of types, because types may themselves hold
columns.
-/

namespace Conformance.Sql.Grammar

open Conformance.Sql.Parser

/-- When a constraint is checked and whether it is enforced, each said at most once. -/
def constraintCharacteristics : Parser Unit := do
  let _ ← iterate (fun (seen : Bool × Bool × Bool) => do
    let (deferrable, initially, enforced) := seen
    if !deferrable && (← phrase [.NOT, .DEFERRABLE]) then return some (true, initially, enforced)
    else if !deferrable && (← keyword .DEFERRABLE) then return some (true, initially, enforced)
    else if !initially && (← keyword .INITIALLY) then
      let _ ← needOneOf [.DEFERRED, .IMMEDIATE]
      return some (deferrable, true, enforced)
    else if !enforced && (← keyword .ENFORCED) then return some (deferrable, initially, true)
    else if !enforced && (← phrase [.NOT, .ENFORCED]) then
      return some (deferrable, initially, true)
    else return none) (false, false, false)

/-- What happens to a row when the row it refers to changes. -/
def referentialAction : Parser Unit := do
  unless ← anyOf [.RESTRICT, .CASCADE] do
    if ← keyword .NO then need .ACTION
    else
      need .SET
      let _ ← needOneOf [.NULL, .DEFAULT]

/-- What follows `REFERENCES`: a table, its columns, and an action for each kind of change. -/
def referencesBody : Parser Unit := do
  void objectName
  optionalColumnNames
  let _ ← iterate (fun (seen : Bool × Bool) => do
    let (onDelete, onUpdate) := seen
    if !onDelete && (← phrase [.ON, .DELETE]) then
      referentialAction
      return some (true, onUpdate)
    else if !onUpdate && (← phrase [.ON, .UPDATE]) then
      referentialAction
      return some (onDelete, true)
    else return none) (false, false)
  constraintCharacteristics

/-- The options of a sequence, in this order. -/
def sequenceOptions : Parser Unit := do
  if ← keyword .INCREMENT then
    skip [.BY]
    signedNumber
  unless ← phrase [.NO, .MINVALUE] do clause .MINVALUE signedNumber
  unless ← phrase [.NO, .MAXVALUE] do clause .MAXVALUE signedNumber
  if ← keyword .START then
    skip [.WITH]
    signedNumber
  clause .CACHE signedNumber
  unless ← phrase [.NO, .CYCLE] do skip [.CYCLE]

/-- Options of a sequence between parentheses, if there are any. -/
def optionalSequence : Parser Unit := do
  if ← parenthesisAhead then parenthesized sequenceOptions

/-- How the value of a generated column is kept. -/
def optionalGeneratedKind : Parser Unit := skip [.STORED, .VIRTUAL]

/-- The words that begin an option of a column, so that no type is written before them. -/
def beginsColumnOption : List Keyword :=
  [.CONSTRAINT, .PRIMARY, .NOT, .UNIQUE, .CHECK, .DEFAULT, .COLLATE, .REFERENCES, .GENERATED, .AS]

section

variable (level : Level)

/-- What follows `GENERATED`; tells whether it makes an option. -/
def generatedBody : Parser Bool := do
  if ← onePhrase [[.ALWAYS, .AS, .IDENTITY], [.BY, .DEFAULT, .AS, .IDENTITY]] then
    optionalSequence
    return true
  else if ← phrase [.ALWAYS, .AS] then
    if ← token .leftParen then
      void (expression level .normal)
      expect .rightParen
      optionalGeneratedKind
      return true
    else return false
  else return false

/-- The default value of a column: between parentheses a single operand, otherwise an
expression. -/
def defaultBody : Parser Unit := do
  if ← token .leftParen then
    nested level .normal
    void (optionalCollation .normal)
  else void (expression level .columnOption)

/-- An option of a column; tells whether there is one.  Words that are no option of a column here
are passed over all the same. -/
def columnOption : Parser Bool := do
  if ← phrase [.CHARACTER, .SET] then
    void objectName
    return true
  else if ← keyword .COLLATE then
    void objectName
    return true
  else if ← phrase [.NOT, .NULL] then return true
  else if ← keyword .COMMENT then
    quotedText
    return true
  else if ← keyword .NULL then return true
  else if ← keyword .DEFAULT then
    defaultBody level
    return true
  else if ← phrase [.PRIMARY, .KEY] then
    constraintCharacteristics
    return true
  else if ← keyword .UNIQUE then
    constraintCharacteristics
    return true
  else if ← keyword .REFERENCES then
    referencesBody
    return true
  else if ← keyword .CHECK then
    condition level
    return true
  else
    skip [.AUTO_INCREMENT]
    if ← keyword .AUTOINCREMENT then return true
    else if ← keyword .ASC then return true
    else if ← keyword .DESC then return true
    else
      skipPhrase [.ON, .UPDATE]
      if ← keyword .GENERATED then generatedBody level
      else if ← keyword .AS then
        let _ ← parenthesized (expression level .columnOption)
        optionalGeneratedKind
        return true
      else
        skip [.SRID]
        skip [.IDENTITY]
        if ← phrase [.ON, .CONFLICT] then
          let _ ← needOneOf [.ROLLBACK, .ABORT, .FAIL, .IGNORE, .REPLACE]
          return true
        else return false

/-- Options of a column that have no names of their own. -/
def plainColumnOptions : Parser Unit := whileTrue (columnOption level)

/-- The options of a column, each perhaps with a name. -/
def columnOptions : Parser Unit :=
  whileTrue do
    if ← keyword .CONSTRAINT then
      void identifier
      unless ← columnOption level do unexpected
      return true
    else columnOption level

/-- The definition of a column, of which the name is kept.  The type may be missing. -/
def columnDefWith (type : Parser Unit) : Parser String := do
  let name ← identifier
  match ← peek? with
  | some (.word _ k) => unless (k.map beginsColumnOption.contains).getD false do type
  | _ => pure ()
  columnOptions level
  return name

end

end Conformance.Sql.Grammar
