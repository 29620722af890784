import Conformance.Sql.Grammar.Operand

set_option autoImplicit false

/-!
# Expressions

How far an expression reaches: an operand, the names that follow it after points, and operators
with what they apply to, for as long as these bind tightly enough.
-/

namespace Conformance.Sql.Grammar

open Conformance.Sql.Parser

section

variable (level : Level) (mode : Mode)

/-- Points after an operand, each followed by a name, a text, or an operand of its own. -/
def pointChain (shape : Shape) : Parser Shape :=
  iterate (fun _ => orNothing do
    if ← token .period then
      match ← peek? with
      | some (.text _) =>
        void next?
        return some .compound
      | some t =>
        if t == star then return none
        else
          void (level.expr mode periodPrecedence)
          return some .compound
      | none => unexpected
    else return none) shape

/-- What follows an operator between two operands. -/
def rightOperand (precedence : Nat) (overSets : Bool) : Parser Unit := do
  if ← anyOf [.ANY, .ALL, .SOME] then
    let isQuery ← lookAhead do
      expect .leftParen
      queryAhead
    if isQuery then void (level.expr mode precedence)
    else parenthesized (void (level.expr mode precedence))
    unless overSets do unexpected
  else void (level.expr mode precedence)

/-- What follows `IS`. -/
def isBody : Parser Unit := do
  skip [.NOT]
  if ← anyOf [.NULL, .TRUE, .FALSE, .UNKNOWN] then return ()
  if ← phrase [.DISTINCT, .FROM] then void (expression level mode)
  else
    skip [.NFC, .NFD, .NFKC, .NFKD]
    need .NORMALIZED

/-- What follows `IN`: a query or a list, which may be empty. -/
def inBody : Parser Unit := do
  if ← keyword .UNNEST then parenthesized (void (expression level mode))
  else
    parenthesized do
      if (← attempt (level.query mode)).isNone then
        unless ← lookAhead (token .rightParen) do expressions level mode

/-- A pattern and perhaps its escape character. -/
def patternBody : Parser Unit := do
  void (level.expr mode likePrecedence)
  clause .ESCAPE value

/-- A comparison with a set, a range or a pattern, perhaps negated. -/
def comparisonBody : Parser Unit := do
  let negated ← keyword .NOT
  let regexp ← keyword .REGEXP
  let rlike ← keyword .RLIKE
  let null ← if mode = .normal then keyword .NULL else pure false
  if regexp || rlike then void (level.expr mode likePrecedence)
  else
    if negated && null then return ()
    match ← oneOf [.IN, .BETWEEN, .LIKE, .ILIKE, .SIMILAR] with
    | some .IN => inBody level mode
    | some .BETWEEN =>
      void (level.expr mode comparisonPrecedence)
      need .AND
      void (level.expr mode comparisonPrecedence)
    | some .SIMILAR =>
      need .TO
      patternBody level mode
    | some _ =>
      skip [.ANY]
      patternBody level mode
    | none => unexpected

/-- An operator and what follows it, after an operand. -/
def operation (precedence : Nat) : Parser Unit := do
  match ← peek? with
  | some (.operator spelling) =>
    if isIdleOperator spelling then unexpected
    void next?
    if spelling == "::" then void (dataType level)
    else rightOperand level mode precedence (comparesWithSets spelling)
  | some (.word _ (some k)) =>
    match k with
    | .REGEXP | .MATCH =>
      void next?
      void (expression level mode)
    | .AND | .OR | .XOR | .OVERLAPS =>
      void next?
      rightOperand level mode precedence false
    | .IS =>
      void next?
      isBody level mode
    | .AT =>
      needAll [.AT, .TIME, .ZONE]
      void (level.expr mode precedence)
    | .NOT | .IN | .BETWEEN | .LIKE | .ILIKE | .SIMILAR | .RLIKE => comparisonBody level mode
    | .NOTNULL => void next?
    | .MEMBER =>
      void next?
      need .OF
      parenthesized (void (expression level mode))
    | _ => unexpected
  | _ => unexpected

/-- An expression whose operators bind more tightly than a precedence. -/
def exprAbove (precedence : Nat) : Parser Shape := do
  let shape ← pointChain level mode (← operand level mode)
  iterate (fun _ => do
    let above ← nextPrecedence mode
    if above ≤ precedence then return none
    else
      operation level mode above
      return some .compound) shape

end

end Conformance.Sql.Grammar
