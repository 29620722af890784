import Conformance.Sql.Grammar.From

set_option autoImplicit false

/-!
# The body of a query

A single `SELECT` with its clauses, rows of values, and these joined by set operators.
-/

namespace Conformance.Sql.Grammar

open Conformance.Sql.Parser

section

variable (level : Level) (mode : Mode)

/-- A column of a result.  The bare word `FROM` is not one. -/
def resultColumn : Parser Unit := do
  match ← item level mode with
  | .wildcard => return ()
  | .expr (.name w) =>
    if w.keyword? == some .FROM then unexpected
    void (optionalAlias endsColumn)
  | .expr .compound => void (optionalAlias endsColumn)

/-- The columns of a result. -/
def resultColumns : Parser Unit := listOf (resultColumn level mode)

/-- Whether equal rows of a result are kept. -/
def optionalDistinct : Parser Unit := do
  let all ← keyword .ALL
  if ← keyword .DISTINCT then
    if all then unexpected
    clause .ON (listOrNoneIn (expression level mode))

/-- A limit before the columns. -/
def optionalTop : Parser Unit := do
  if ← keyword .TOP then
    if ← parenthesisAhead then parenthesized (void (expression level mode))
    else void unsignedInteger
    skip [.PERCENT]
    skipPhrase [.WITH, .TIES]

/-- A new table for the rows of a result; `INTO` has been read. -/
def intoBody : Parser Unit := do
  skip [.TEMP, .TEMPORARY]
  skip [.UNLOGGED]
  skip [.TABLE]
  void objectName

/-- Views that add the rows of a function to each row. -/
def lateralViews : Parser Unit :=
  whileTrue do
    if ← phrase [.LATERAL, .VIEW] then
      skip [.OUTER]
      void (expression level mode)
      void objectName
      listOf (optionalAlias endsViewColumn)
      return true
    else return false

/-- A set of expressions to group by, which may be empty between parentheses. -/
def groupingSet : Parser Unit := do
  if ← parenthesisAhead then listOrNoneIn (expression level mode)
  else void (expression level mode)

/-- How rows are grouped. -/
def optionalGrouping : Parser Unit := do
  if ← phrase [.GROUP, .BY] then
    unless ← keyword .ALL do expressions level mode
    phraseClause [.GROUPING, .SETS] (listIn (groupingSet level mode))

/-- A named window. -/
def namedWindow : Parser Unit := do
  void identifier
  need .AS
  expect .leftParen
  window level mode

/-- Named windows and a condition on their results, in either order. -/
def windowClauses : Parser Unit := do
  if ← keyword .WINDOW then
    listOf (namedWindow level mode)
    clause .QUALIFY (expression level mode)
  else if ← keyword .QUALIFY then
    void (expression level mode)
    clause .WINDOW (listOf (namedWindow level mode))

/-- A single `SELECT`. -/
def select : Parser Unit := do
  need .SELECT
  optionalDistinct level mode
  optionalTop level mode
  resultColumns level mode
  clause .INTO intoBody
  clause .FROM (tables level mode)
  lateralViews level mode
  clause .WHERE (expression level mode)
  optionalGrouping level mode
  phraseClause [.CLUSTER, .BY] (expressions level mode)
  phraseClause [.DISTRIBUTE, .BY] (expressions level mode)
  phraseClause [.SORT, .BY] (listOf (orderItem level mode))
  clause .HAVING (expression level mode)
  windowClauses level mode

/-- Rows of values. -/
def valueRows : Parser Unit := listOf do
  skip [.ROW]
  parenthesized (expressions level mode)

/-- A table as a query: one name, or two with a point; in any case three tokens are taken. -/
def tableQuery : Parser Unit := do
  let first ← next?
  let second ← next?
  let third ← next?
  unless (first.map Token.isWord).getD false do unexpected
  if second == some .period then
    unless (third.map Token.isWord).getD false do unexpected

/-- How tightly a set operator binds. -/
def setPrecedence : Keyword → Nat
  | .INTERSECT => 20
  | _ => 10

/-- Whether a set operator keeps equal rows and how it matches columns. -/
def optionalQuantifier : Parser Unit := do
  skip [.ALL, .DISTINCT]
  skipPhrase [.BY, .NAME]

/-- The body of a query, whose set operators bind more tightly than a precedence, with at most
`depth` operators nested to the right. -/
def bodyAbove : Nat → Nat → Parser Unit
  | 0, _ => unexpected
  | depth + 1, precedence => do
    if ← ahead [.SELECT] then select level mode
    else if ← parenthesisAhead then parenthesized (level.query mode)
    else if ← keyword .VALUES then valueRows level mode
    else if ← keyword .TABLE then tableQuery
    else unexpected
    whileTrue do
      match ← lookAhead (oneOf [.UNION, .EXCEPT, .INTERSECT, .MINUS]) with
      | some k =>
        if setPrecedence k ≤ precedence then return false
        void next?
        optionalQuantifier
        bodyAbove depth (setPrecedence k)
        return true
      | none => return false

/-- The body of a query. -/
def body : Parser Unit := bounded fun fuel => bodyAbove level mode fuel 0

end

end Conformance.Sql.Grammar
