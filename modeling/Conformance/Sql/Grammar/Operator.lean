import Conformance.Sql.Grammar.Level

set_option autoImplicit false

/-!
# Operators

How tightly operators bind, and which operator comes next.  Some tokens have a precedence but no
meaning between two operands: an expression that reaches one of them cannot be read.
-/

namespace Conformance.Sql.Grammar

open Conformance.Sql.Parser

/-- Precedences of operators. -/
def orPrecedence : Nat := 5
def andPrecedence : Nat := 10
def notPrecedence : Nat := 15
def arrowPrecedence : Nat := 16
def isPrecedence : Nat := 17
def likePrecedence : Nat := 19
def comparisonPrecedence : Nat := 20
def pipePrecedence : Nat := 21
def caretPrecedence : Nat := 22
def ampersandPrecedence : Nat := 23
def xorPrecedence : Nat := 24
def sumPrecedence : Nat := 30
def productPrecedence : Nat := 40
def timeZonePrecedence : Nat := 41
def castPrecedence : Nat := 50
def periodPrecedence : Nat := 100

/-- The precedence of an operator between two operands; zero for what is no such operator. -/
def operatorPrecedence (spelling : String) : Nat :=
  if [":=", "=", "<", "<=", "<>", "!=", ">", ">=", "==", "~", "~*", "!~", "!~*", "~~", "~~*",
      "!~~", "!~~*", "<=>"].contains spelling then comparisonPrecedence
  else if spelling == "|" then pipePrecedence
  else if ["^", "#", ">>", "<<"].contains spelling then caretPrecedence
  else if spelling == "&" then ampersandPrecedence
  else if ["+", "-"].contains spelling then sumPrecedence
  else if ["*", "/", "%", "||"].contains spelling then productPrecedence
  else if ["::", "!", "&&", "^@"].contains spelling then castPrecedence
  else if ["->", "->>", "#>", "#>>", "@>", "<@", "#-", "@?", "@@", "@"].contains spelling then
    arrowPrecedence
  else 0

/-- Operators that have a precedence but no meaning between two operands. -/
def isIdleOperator (spelling : String) : Bool :=
  ["#", ">>", "<<", "!", "&&", "^@", "@"].contains spelling

/-- Operators that compare with some or all rows of a set. -/
def comparesWithSets (spelling : String) : Bool :=
  ["=", "==", "<", "<=", "<>", "!=", ">", ">=", "~", "~*", "!~", "!~*", "~~", "~~*", "!~~",
   "!~~*"].contains spelling

/-- The precedence of the operator that begins with `NOT`, by the keyword after it. -/
def negatedPrecedence (mode : Mode) : Keyword → Nat
  | .IN | .BETWEEN => comparisonPrecedence
  | .LIKE | .ILIKE | .RLIKE | .REGEXP | .MATCH | .SIMILAR | .MEMBER => likePrecedence
  | .NULL => if mode = .normal then isPrecedence else 0
  | _ => 0

/-- The precedence of the operator that comes next; zero if there is none. -/
def nextPrecedence (mode : Mode) : Parser Nat := do
  match ← peek? with
  | some (.operator spelling) => return operatorPrecedence spelling
  | some (.word _ (some k)) =>
    match k with
    | .OR => return orPrecedence
    | .AND => return andPrecedence
    | .XOR => return xorPrecedence
    | .AT => if ← phraseAhead [.AT, .TIME, .ZONE] then return timeZonePrecedence else return 0
    | .NOT =>
      let following ← lookAhead do
        void next?
        peek?
      return ((following.bind Token.keyword?).map (negatedPrecedence mode)).getD 0
    | .NOTNULL | .IS => return isPrecedence
    | .IN | .BETWEEN | .OVERLAPS | .OPERATOR => return comparisonPrecedence
    | .LIKE | .ILIKE | .RLIKE | .REGEXP | .MATCH | .SIMILAR | .MEMBER => return likePrecedence
    | .DIV => return productPrecedence
    | _ => return 0
  | _ => return 0

end Conformance.Sql.Grammar
