import Conformance.Sql.Grammar.Name

set_option autoImplicit false

/-!
# Levels of nesting

Statements, queries and expressions contain each other.  A `Level` holds the readers of the next
level down, and every reader of the grammar that may meet something nested takes one.  Nothing is
evaluated: of an expression all that is kept is the word it consists of when it is a single name,
and of a statement whether it creates a table.
-/

namespace Conformance.Sql.Grammar

open Conformance.Sql.Parser

/-- Where an expression stands. -/
inductive Mode where
  | normal
  /-- Among the options of a column, where `COLLATE` and `NOT NULL` belong to the column and not to
  the expression before them. -/
  | columnOption
  deriving DecidableEq, Repr

/-- What is kept of an expression. -/
inductive Shape where
  | name (word : Word)
  | compound
  deriving DecidableEq, Repr

/-- What is kept of a statement. -/
inductive Statement where
  /-- Creates a table: the last part of its name, and its columns. -/
  | createTable (name : String) (columns : List String)
  | explain
  | other
  deriving DecidableEq, Repr, Inhabited

/-- The readers of one level of nesting. -/
structure Level where
  /-- An expression whose operators bind more tightly than a precedence. -/
  expr : Mode → Nat → Parser Shape
  query : Mode → Parser Unit
  statement : Parser Statement

/-- The direction of an ordering and where null stands in it. -/
def orderOptions : Parser Unit := do
  skip [.ASC, .DESC]
  unless ← phrase [.NULLS, .FIRST] do skipPhrase [.NULLS, .LAST]

/-- The next tokens begin a query. -/
def queryAhead : Parser Bool := ahead [.SELECT, .WITH]

section

variable (level : Level) (mode : Mode)

/-- A whole expression. -/
def expression : Parser Shape := level.expr mode 0

/-- Expressions with commas in between. -/
def expressions : Parser Unit := listOf (expression level mode)

/-- An expression, perhaps with a name after `AS`. -/
def namedExpression : Parser Unit := do
  void (expression level mode)
  clause .AS identifier

/-- An expression to order by. -/
def orderItem : Parser Unit := do
  void (expression level mode)
  orderOptions

/-- `ORDER BY`, if it is next. -/
def optionalOrderBy : Parser Unit := phraseClause [.ORDER, .BY] (listOf (orderItem level mode))

/-- The collation of an operand, if one is given.  Among the options of a column there is none. -/
def optionalCollation : Parser Bool := do
  if mode = .normal then
    if ← keyword .COLLATE then
      void objectName
      return true
    else return false
  else return false

/-- An operand that begins with a parenthesis, which has been read: a query or a list. -/
def nested : Parser Unit := do
  if ← queryAhead then level.query mode else expressions level mode
  expect .rightParen

end

/-- An option: a name and the expression it is set to. -/
def keyedOption (level : Level) : Parser Unit := do
  void identifier
  expect equalSign
  void (expression level .normal)

/-- Options between parentheses after a keyword, if the keyword is next; tells whether there is at
least one option. -/
def optionsAfter (level : Level) (k : Keyword) : Parser Bool := do
  if ← keyword k then
    expect .leftParen
    if ← token .rightParen then return false
    listOf (keyedOption level)
    expect .rightParen
    return true
  else return false

/-- One or more options between parentheses after keywords in a row, if these are next; tells
whether they are. -/
def optionsAfterPhrase (level : Level) (ks : List Keyword) : Parser Bool := do
  if ← phrase ks then
    listIn (keyedOption level)
    return true
  else return false

/-- A condition between parentheses. -/
def condition (level : Level) : Parser Unit := parenthesized (void (expression level .normal))

end Conformance.Sql.Grammar
