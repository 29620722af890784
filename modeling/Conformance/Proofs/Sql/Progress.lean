import Conformance.Proofs.Sql.Barrier
import Mathlib.Data.List.TakeWhile

set_option autoImplicit false

/-!
# Every token takes a character

What is left behind a token is an end of what stood behind its first character.  So a text is used
up within as many steps as it has characters, and the bound on the number of steps is never met
before the text ends.
-/

namespace Conformance.Sql.Lexer

theorem suffix_readSuffix (numeral : String) (cs : List Char) :
    (readSuffix numeral cs).2 <:+ cs := by
  unfold readSuffix
  split
  · exact List.suffix_cons _ _
  · exact List.suffix_refl _

theorem suffix_exponentDigits {cs lead rest : List Char} (h : rest <:+ cs) :
    (exponentDigits cs lead rest).2 <:+ cs := by
  unfold exponentDigits
  split
  · split
    · exact (List.dropWhile_suffix _).trans h
    · exact List.suffix_refl _
  · exact List.suffix_refl _

theorem suffix_readExponent (cs : List Char) : (readExponent cs).2 <:+ cs := by
  match cs with
  | [] => exact List.suffix_refl _
  | [_] => exact List.suffix_refl _
  | e :: sign :: rest =>
    have hrest : sign :: rest <:+ e :: sign :: rest := List.suffix_cons _ _
    rw [readExponent_cons_cons]
    split
    · split
      · exact suffix_exponentDigits ((List.suffix_cons _ _).trans hrest)
      · exact suffix_exponentDigits hrest
    · exact List.suffix_refl _

theorem suffix_readFraction (whole point cs : List Char) :
    (readFraction whole point cs).2 <:+ cs := by
  unfold readFraction
  have hfraction : cs.dropWhile Char.isDigit <:+ cs := List.dropWhile_suffix _
  split
  · exact hfraction
  · exact ((suffix_readSuffix _ _).trans (suffix_readExponent _)).trans hfraction

theorem suffix_readDecimal (whole cs : List Char) : (readDecimal whole cs).2 <:+ cs := by
  unfold readDecimal
  split
  · exact (suffix_readFraction _ _ _).trans (List.suffix_cons _ _)
  · exact suffix_readFraction _ _ _

theorem suffix_readNumeral (whole cs : List Char) : (readNumeral whole cs).2 <:+ cs := by
  unfold readNumeral
  split
  · exact (List.dropWhile_suffix _).trans (List.suffix_cons _ _)
  · exact suffix_readDecimal _ _

/-- A numeral takes the digit or the point that it begins with. -/
theorem suffix_readNumber {c : Char} (h : c.isDigit = true ∨ c = '.') (cs : List Char) :
    (readNumber (c :: cs)).2 <:+ cs := by
  rw [readNumber_eq]
  by_cases hc : c.isDigit = true
  · rw [List.dropWhile_cons_of_pos hc]
    exact (suffix_readNumeral _ _).trans (List.dropWhile_suffix _)
  · obtain rfl := h.resolve_left hc
    exact suffix_readFraction [] ['.'] cs

theorem eq_drop_of_spelled {cs rest : List Char} {n : Nat} {spelling : String}
    (h : spelled cs n = some (spelling, rest)) : rest = cs.drop n := by
  simp only [spelled] at h
  split at h
  · cases h
    rfl
  · cases h

/-- An operator takes a character. -/
theorem suffix_of_operator? {c : Char} {cs rest : List Char} {spelling : String}
    (h : operator? (c :: cs) = some (spelling, rest)) : rest <:+ cs := by
  rw [operator?_eq] at h
  simp only [Option.or_eq_some_iff] at h
  rcases h with h | ⟨-, h | ⟨-, h | ⟨-, h⟩⟩⟩
  all_goals
    rw [eq_drop_of_spelled h, List.drop_succ_cons]
    exact List.drop_suffix _ _

theorem suffix_readOther (c : Char) (cs : List Char) : (readOther c cs).2 <:+ cs := by
  unfold readOther
  split
  · next hword =>
    have hpart : isWordPart c = true := by simp [isWordPart, hword]
    simp only [readWord, List.dropWhile_cons_of_pos hpart]
    exact List.dropWhile_suffix _
  · split
    · next hoperator => exact suffix_of_operator? hoperator
    · exact List.suffix_refl _

theorem suffix_of_afterComment {cs rest : List Char} (h : afterComment cs = some rest) :
    rest <:+ cs := by
  fun_induction afterComment cs with
  | case1 =>
    cases h
    exact (List.suffix_cons _ _).trans (List.suffix_cons _ _)
  | case2 c cs hnot ih => exact (ih h).trans (List.suffix_cons _ _)
  | case3 => cases h

theorem suffix_of_readBytes {cs content rest : List Char}
    (h : readBytes cs = some (content, rest)) : rest <:+ cs := by
  fun_induction readBytes cs generalizing content rest with
  | case2 =>
    cases h
    exact List.suffix_cons _ _
  | case5 => cases h
  | case1 tail ih | case3 c tail ih =>
    obtain ⟨⟨content', rest'⟩, hread, heq⟩ := Option.map_eq_some_iff.mp h
    cases heq
    exact ((ih hread).trans (List.suffix_cons _ _)).trans (List.suffix_cons _ _)
  | case4 c tail _ _ _ ih =>
    obtain ⟨⟨content', rest'⟩, hread, heq⟩ := Option.map_eq_some_iff.mp h
    cases heq
    exact (ih hread).trans (List.suffix_cons _ _)

theorem suffix_of_readText {make : String → Token} {cs rest : List Char} {token : Token}
    (h : readText make cs = .ok (token, rest)) : rest <:+ cs := by
  unfold readText at h
  split at h
  · next hread =>
    cases h
    exact suffix_of_readQuoted hread
  · cases h

theorem suffix_of_readIdentifier {opening close : Char} {cs rest : List Char} {token : Token}
    (h : readIdentifier opening close cs = .ok (token, rest)) : rest <:+ cs := by
  unfold readIdentifier at h
  split at h
  · next hread =>
    cases h
    exact suffix_of_readQuoted hread
  · cases h

/-- A token takes its first character, and leaves an end of what stands behind it. -/
theorem suffix_of_readToken {afterWord : Bool} {c : Char} {cs rest : List Char} {token : Token}
    (h : readToken afterWord c cs = .ok (token, rest)) : rest <:+ cs := by
  unfold readToken at h
  split at h
  case h_1 | h_2 | h_3 | h_4 =>
    cases h
    exact List.suffix_refl _
  case h_5 =>
    cases h
    exact List.suffix_cons _ _
  case h_6 line =>
    cases h
    exact ((List.drop_suffix _ _).trans (List.dropWhile_suffix _)).trans (List.suffix_cons _ _)
  case h_7 =>
    split at h
    · next hcomment =>
      cases h
      exact (suffix_of_afterComment hcomment).trans (List.suffix_cons _ _)
    · cases h
  case h_8 => exact suffix_of_readText h
  case h_9 | h_10 => exact (suffix_of_readText h).trans (List.suffix_cons _ _)
  case h_11 | h_12 =>
    split at h
    · next hbytes =>
      cases h
      exact (suffix_of_readBytes hbytes).trans (List.suffix_cons _ _)
    · cases h
  case h_13 | h_14 | h_15 => exact suffix_of_readIdentifier h
  case h_16 =>
    split at h
    · cases h
      exact List.suffix_refl _
    · cases h
  case h_17 =>
    injection h with h
    have := suffix_readNumber (Or.inr rfl) cs
    rwa [h] at this
  case h_18 | h_19 =>
    cases h
    exact List.dropWhile_suffix _
  case h_20 =>
    split at h
    · cases h
      exact List.suffix_refl _
    · split at h
      · next hdigit =>
        injection h with h
        have := suffix_readNumber (Or.inl hdigit) cs
        rwa [h] at this
      · injection h with h
        have := suffix_readOther c cs
        rwa [h] at this

end Conformance.Sql.Lexer
