set_option autoImplicit false

/-!
# Case-insensitive names

Sheet names, table names and column names compare without regard to the case of ASCII letters;
all other characters have to agree exactly.
-/

namespace Conformance.Text

/-- The name with its ASCII capitals made small. -/
def foldCase (s : String) : List Char := s.toList.map Char.toLower

/-- Two names agree up to the case of ASCII letters. -/
def sameName (a b : String) : Bool := foldCase a == foldCase b

theorem sameName_iff {a b : String} : sameName a b = true ↔ foldCase a = foldCase b := by
  simp [sameName]

@[simp] theorem sameName_refl (a : String) : sameName a a = true := by simp [sameName]

end Conformance.Text
