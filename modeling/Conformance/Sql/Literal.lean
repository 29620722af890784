import Conformance.Sql.Quoted

set_option autoImplicit false

/-!
# Literals

The values of an `INSERT` statement and how they are written.  A text with the character NUL has
no written form; everything else has.
-/

namespace Conformance.Sql

/-- Why a value cannot be written. -/
inductive LiteralError where
  | nulCharacter
  deriving DecidableEq, Repr

namespace LiteralError

/-- The text shown for the error. -/
def message : LiteralError → String
  | .nulCharacter => "contains a NUL character"

end LiteralError

/-- A text between single quotes. -/
def quoteText (value : String) : Except LiteralError String :=
  if '\x00' ∈ value.toList then .error .nulCharacter
  else .ok (String.ofList (quoted '\x27' value.toList))

/-- An identifier between double quotes. -/
def quoteIdentifier (name : String) : String := String.ofList (quoted '\x22' name.toList)

/-- A value for one column. -/
inductive Value where
  | null
  | integer (value : Int)
  | text (value : String)
  deriving DecidableEq, Repr, Inhabited

namespace Value

/-- A count as a signed word of 64 bits; counts from `2 ^ 63` on wrap to negative numbers. -/
def ofCount (n : Nat) : Value := .integer (Int.bmod n (Nat.pow 2 64))

/-- A text if there is one, else null. -/
def ofOption : Option String → Value
  | some s => .text s
  | none => .null

/-- The written form of a value. -/
def literal : Value → Except LiteralError String
  | .null => .ok "NULL"
  | .integer n => .ok (toString n)
  | .text s => quoteText s

end Value

/-- A text has no written form exactly when it holds NUL. -/
theorem quoteText_eq_error_iff {value : String} {e : LiteralError} :
    quoteText value = .error e ↔ '\x00' ∈ value.toList := by
  cases e
  by_cases h : '\x00' ∈ value.toList <;> simp [quoteText, h]

end Conformance.Sql
