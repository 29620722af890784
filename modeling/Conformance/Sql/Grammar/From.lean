import Conformance.Sql.Grammar.DocumentTable
import Conformance.Sql.Grammar.Operator

set_option autoImplicit false

/-!
# Tables of a query

What stands after `FROM`: named tables, tables made by queries and functions, samples of tables,
tables with rows and columns exchanged, and joins.
-/

namespace Conformance.Sql.Grammar

open Conformance.Sql.Parser

section

variable (level : Level) (mode : Mode)

/-- A function with its arguments, perhaps under another name. -/
def namedCall : Parser Unit := do
  match ← next? with
  | some (.word _ _) => functionCall level mode
  | _ => unexpected
  clause .AS identifier

/-- Rows turned into columns; `PIVOT` has been read. -/
def pivotBody : Parser Unit := do
  parenthesized do
    listOf (namedCall level mode)
    need .FOR
    let column : Parser Unit := void (level.expr mode comparisonPrecedence)
    if ← parenthesisAhead then listIn column else column
    need .IN
    parenthesized do
      if ← keyword .ANY then optionalOrderBy level mode
      else if ← queryAhead then level.query mode
      else listOf (namedExpression level mode)
    phraseClause [.DEFAULT, .ON, .NULL] (parenthesized (expression level mode))
  optionalTableAlias level

/-- Columns turned into rows; `UNPIVOT` has been read. -/
def unpivotBody : Parser Unit := do
  if ← anyOf [.INCLUDE, .EXCLUDE] then need .NULLS
  parenthesized do
    void (expression level mode)
    need .FOR
    void identifier
    need .IN
    listIn (namedExpression level mode)
  optionalTableAlias level

/-- Exchanges of rows and columns, one after the other. -/
def pivots : Parser Unit :=
  whileTrue do
    match ← oneOf [.PIVOT, .UNPIVOT] with
    | some .PIVOT =>
      pivotBody level mode
      return true
    | some _ =>
      unpivotBody level mode
      return true
    | none => return false

/-- How much of a table is taken: an expression or a word, in rows or in parts of a hundred. -/
def sampleQuantity : Parser Unit := do
  if (← attempt (expression level mode)).isNone then
    match ← next? with
    | some (.word _ _) => pure ()
    | _ => unexpected
  skip [.ROWS, .PERCENT]

/-- One of several equal parts of a table; `BUCKET` has been read. -/
def sampleBucket : Parser Unit := do
  numberValue
  needAll [.OUT, .OF]
  numberValue
  clause .ON (expression level mode)

/-- Some of the rows of a table, if that is said. -/
def optionalSample : Parser Unit := do
  if ← anyOf [.TABLESAMPLE, .SAMPLE] then
    skip [.BERNOULLI, .ROW, .SYSTEM, .BLOCK]
    if ← token .leftParen then
      if ← keyword .BUCKET then sampleBucket level mode else sampleQuantity level mode
      expect .rightParen
    else sampleQuantity level mode
    if ← anyOf [.REPEATABLE, .SEED] then parenthesized numberValue
    clause .OFFSET (expression level mode)

/-- A query between parentheses and its alias; the opening parenthesis has been read. -/
def derivedTable : Parser Unit := do
  level.query mode
  expect .rightParen
  optionalTableAlias level

/-- The arguments of a table function; the opening parenthesis has been read. -/
def tableArguments : Parser Unit := do
  unless ← token .rightParen do
    listOf (argument level mode)
    expect .rightParen

/-- A table by its name, with arguments, alias, hints and a sample. -/
def namedTable : Parser Unit := do
  void objectName
  if ← token .leftParen then tableArguments level mode
  skipPhrase [.WITH, .ORDINALITY]
  optionalTableAlias level
  let hinted ← lookAhead do
    if ← keyword .WITH then token .leftParen else return false
  if hinted then
    need .WITH
    parenthesized (expressions level mode)
  optionalSample level mode
  pivots level mode

/-- How two joined tables are matched. -/
def joinConstraint (natural : Bool) : Parser Unit := do
  unless natural do
    if ← keyword .ON then void (expression level mode)
    else clause .USING (listIn objectName)

/-- A join after a table; tells whether there is one. -/
def joinWith (table : Parser Unit) : Parser Bool := do
  skip [.GLOBAL]
  if ← keyword .CROSS then
    let _ ← needOneOf [.JOIN, .APPLY]
    table
    return true
  else if ← keyword .OUTER then
    need .APPLY
    table
    return true
  else if ← keyword .ASOF then
    need .JOIN
    table
    need .MATCH_CONDITION
    parenthesized (void (expression level mode))
    joinConstraint level mode false
    return true
  else
    let natural ← keyword .NATURAL
    let joined : Parser Bool := do
      table
      joinConstraint level mode natural
      return true
    match ← oneOf [.INNER, .JOIN, .LEFT, .RIGHT, .ANTI, .SEMI, .FULL, .OUTER, .STRAIGHT_JOIN] with
    | some .JOIN | some .STRAIGHT_JOIN => joined
    | some .INNER | some .ANTI | some .SEMI =>
      need .JOIN
      joined
    | some .LEFT | some .RIGHT =>
      let kind ← needOneOf [.OUTER, .SEMI, .ANTI, .JOIN]
      unless kind == .JOIN do need .JOIN
      joined
    | some .FULL =>
      skip [.OUTER]
      need .JOIN
      joined
    | some _ => unexpected
    | none => if natural then unexpected else return false

/-- What stands between parentheses in place of a table.  A single table may not. -/
inductive TableShape where
  | table
  | join
  deriving DecidableEq, Repr

/-- Joins after a table; tells whether there is any. -/
def joins (table : Parser Unit) : Parser Bool :=
  iterate (fun _ => do
    if ← joinWith level mode table then return some true else return none) false

/-- A table of a query, with at most `depth` nested parentheses. -/
def tableWithin : Nat → Parser TableShape
  | 0 => unexpected
  | depth + 1 => do
    let inner := delayed fun _ => tableWithin depth
    if ← keyword .LATERAL then
      if ← token .leftParen then derivedTable level mode
      else
        void objectName
        expect .leftParen
        tableArguments level mode
        optionalTableAlias level
      return .table
    else if ← keyword .TABLE then
      parenthesized (void (expression level mode))
      optionalTableAlias level
      return .table
    else if ← token .leftParen then
      if (← attempt (derivedTable level mode)).isSome then
        pivots level mode
        return .table
      let shape ← inner
      let joined ← joins level mode (void inner)
      if joined || shape == .join then
        expect .rightParen
        optionalTableAlias level
        return .join
      else unexpected
    else if ← documentTable level mode then return .table
    else
      namedTable level mode
      return .table

/-- A table of a query. -/
def tableFactor : Parser Unit := void (bounded (tableWithin level mode))

/-- A table of a query with its joins. -/
def tableAndJoins : Parser Unit := do
  tableFactor level mode
  void (joins level mode (tableFactor level mode))

/-- The tables of a query. -/
def tables : Parser Unit := listOf (tableAndJoins level mode)

end

end Conformance.Sql.Grammar
