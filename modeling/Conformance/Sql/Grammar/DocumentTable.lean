import Conformance.Sql.Grammar.Alias
import Conformance.Sql.Grammar.Call

set_option autoImplicit false

/-!
# Tables made of documents

Table functions that cut a document into rows.  Each lists the columns of its rows with the place
in the document that a column is taken from.
-/

namespace Conformance.Sql.Grammar

open Conformance.Sql.Parser

section

variable (level : Level) (mode : Mode)

/-- What a column holds where its place is empty or wrong. -/
def fallback : Parser Bool := do
  let given ← match ← oneOf [.NULL, .ERROR, .DEFAULT] with
    | none => pure false
    | some k => do
      if k == .DEFAULT then void value
      pure true
  if given then
    need .ON
    let _ ← needOneOf [.EMPTY, .ERROR]
    return true
  else return false

/-- A column of `JSON_TABLE`, or a list of columns at most `depth` lists deep. -/
def jsonColumnWithin : Nat → Parser Unit
  | 0 => unexpected
  | depth + 1 => do
    if ← keyword .NESTED then
      skip [.PATH]
      void value
      need .COLUMNS
      listIn (jsonColumnWithin depth)
    else
      void identifier
      if ← keyword .FOR then need .ORDINALITY
      else
        void (dataType level)
        skip [.EXISTS]
        need .PATH
        void value
        whileTrue fallback

/-- A column of `JSON_TABLE`. -/
def jsonColumn : Parser Unit := bounded (jsonColumnWithin level)

/-- The arguments of `JSON_TABLE`. -/
def jsonTableBody : Parser Unit := parenthesized do
  void (expression level mode)
  expect .comma
  void value
  need .COLUMNS
  listIn (jsonColumn level)

/-- A column of `OPENJSON`. -/
def openJsonColumn : Parser Unit := do
  void identifier
  void (dataType level)
  match ← peek? with
  | some (.text _) => void next?
  | _ => pure ()
  if ← keyword .AS then need .JSON

/-- The arguments of `OPENJSON` and its columns. -/
def openJsonBody : Parser Unit := do
  parenthesized do
    void (expression level mode)
    if ← token .comma then void value
  clause .WITH (listIn (openJsonColumn level))

/-- A column of `XMLTABLE`. -/
def xmlColumn : Parser Unit := do
  void identifier
  if ← keyword .FOR then need .ORDINALITY
  else
    void (dataType level)
    clause .PATH (expression level mode)
    clause .DEFAULT (expression level mode)
    unless ← phrase [.NOT, .NULL] do skip [.NULL]

/-- A value that is passed to `XMLTABLE`. -/
def xmlArgument : Parser Unit := do
  if ← keyword .BY then skip [.VALUE]
  namedExpression level mode

/-- A name space of `XMLTABLE`. -/
def xmlNamespace : Parser Unit := do
  void (expression level mode)
  need .AS
  void identifier

/-- The arguments of `XMLTABLE`. -/
def xmlTableBody : Parser Unit := parenthesized do
  if ← keyword .XMLNAMESPACES then
    listIn (xmlNamespace level mode)
    expect .comma
  void (expression level mode)
  clause .PASSING (listOf (xmlArgument level mode))
  need .COLUMNS
  listOf (xmlColumn level mode)

/-- A table made of a document; tells whether there is one. -/
def documentTable : Parser Bool := do
  match ← lookAhead (do
    let k ← oneOf [.JSON_TABLE, .OPENJSON, .XMLTABLE]
    if ← parenthesisAhead then return k else return none) with
  | none => return false
  | some k =>
    void next?
    match k with
    | .JSON_TABLE => jsonTableBody level mode
    | .OPENJSON => openJsonBody level mode
    | _ => xmlTableBody level mode
    optionalTableAlias level
    return true

end

end Conformance.Sql.Grammar
