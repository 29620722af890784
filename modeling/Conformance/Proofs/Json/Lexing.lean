import Conformance.Proofs.Json.Spelling
import Mathlib.Data.List.Chain

set_option autoImplicit false

/-!
# Texts and their tokens

A text spells tokens if it is made of a spelling of each, one after the other, with any white space
before, between and behind them.  That alone does not fix the tokens, for digits that stand next to
one another are one number and not two; among tokens of which no two neighbours are numbers, the
ones that are read from a text are the ones it spells (`ofText?_eq_some_iff`).
-/

namespace Conformance.Json.Token

/-! ## Texts that spell tokens -/

/-- White space alone. -/
def Blank (cs : List Char) : Prop := ∀ c ∈ cs, isSpace c

/-- The text is made of the spellings of the tokens, with white space anywhere outside of them. -/
inductive Spells : List Token → List Char → Prop where
  | nil {blank : List Char} (hblank : Blank blank) : Spells [] blank
  | cons {token : Token} {tokens : List Token} {blank chars cs : List Char} (hblank : Blank blank)
      (h : Spelling token chars) (htokens : Spells tokens cs) :
      Spells (token :: tokens) (blank ++ (chars ++ cs))

theorem blank_nil : Blank [] := by simp [Blank]

theorem Blank.append {blank cs : List Char} (hblank : Blank blank) (hcs : Blank cs) :
    Blank (blank ++ cs) :=
  List.forall_mem_append.mpr ⟨hblank, hcs⟩

theorem Blank.dropWhile_append {blank : List Char} (h : Blank blank) (cs : List Char) :
    (blank ++ cs).dropWhile isSpace = cs.dropWhile isSpace :=
  List.dropWhile_append_of_pos h

theorem Spelling.spells {token : Token} {chars : List Char} (h : Spelling token chars) :
    Spells [token] chars := by
  simpa using Spells.cons blank_nil h (.nil blank_nil)

theorem Spells.blank_append {tokens : List Token} {blank cs : List Char} (hblank : Blank blank)
    (h : Spells tokens cs) : Spells tokens (blank ++ cs) := by
  cases h with
  | nil hcs => exact .nil (hblank.append hcs)
  | cons hcs htoken htokens =>
    rw [← List.append_assoc]
    exact .cons (hblank.append hcs) htoken htokens

theorem Spells.append {ts us : List Token} {cs ds : List Char} (hts : Spells ts cs)
    (hus : Spells us ds) : Spells (ts ++ us) (cs ++ ds) := by
  induction hts with
  | nil hblank => exact hus.blank_append hblank
  | cons hblank htoken _ ih =>
    rw [List.append_assoc, List.append_assoc]
    exact .cons hblank htoken ih

theorem Spells.blank {cs : List Char} (h : Spells [] cs) : Blank cs := by
  cases h with
  | nil hblank => exact hblank

/-! ## Where a spelling begins -/

/-- Whether a token is a number. -/
def isNumber : Token → Bool
  | .number _ => true
  | _ => false

theorem isSpace_of_isDigit {c : Char} (h : c.isDigit) : isSpace c = false := by
  by_contra hspace
  simp only [isSpace, Bool.not_eq_false, Bool.or_eq_true, beq_iff_eq] at hspace
  rcases hspace with ((rfl | rfl) | rfl) | rfl <;> exact absurd h (by decide)

/-- No token begins with white space, and only numbers with what could belong to a number. -/
theorem Spelling.exists_cons {token : Token} {chars : List Char} (h : Spelling token chars) :
    ∃ c tail, chars = c :: tail ∧ isSpace c = false ∧
      (token.isNumber = false → ∀ rest, Apart (chars ++ rest)) := by
  cases h with
  | positive h =>
    obtain ⟨d, tail, rfl, hd⟩ := h.exists_digit
    exact ⟨d, tail, rfl, isSpace_of_isDigit hd, nofun⟩
  | negative h => exact ⟨'-', _, rfl, rfl, nofun⟩
  | string h =>
    refine ⟨_, _, rfl, rfl, fun _ rest => ?_⟩
    rintro c ⟨⟩
    decide
  | leftBrace | rightBrace | leftBracket | rightBracket | comma | colon | null | trueWord |
    falseWord =>
    refine ⟨_, _, rfl, rfl, fun _ rest => ?_⟩
    rintro c ⟨⟩
    decide

/-- White space does not belong to a number, nor does a token that is not one. -/
theorem Spells.apart {tokens : List Token} {cs : List Char} (h : Spells tokens cs)
    (hhead : ∀ token ∈ tokens.head?, token.isNumber = false) {rest : List Char}
    (hrest : tokens = [] → Apart rest) : Apart (cs ++ rest) := by
  have happart : ∀ {blank tail : List Char}, Blank blank → Apart tail → Apart (blank ++ tail) := by
    rintro (_ | ⟨space, blank⟩) tail hblank htail
    · exact htail
    · rintro c ⟨⟩
      have hspace := hblank space List.mem_cons_self
      simp only [isSpace, Bool.or_eq_true, beq_iff_eq] at hspace
      rcases hspace with ((rfl | rfl) | rfl) | rfl <;> decide
  cases h with
  | nil hblank => exact happart hblank (hrest rfl)
  | @cons token tokens blank chars cs hblank htoken _ =>
    obtain ⟨c, tail, -, -, hchars⟩ := htoken.exists_cons
    rw [List.append_assoc, List.append_assoc]
    exact happart hblank (hchars (hhead token rfl) _)

/-! ## Reading the tokens of a text -/

/-- No two numbers stand next to one another. -/
def Separated (tokens : List Token) : Prop :=
  tokens.IsChain fun a b => a.isNumber = false ∨ b.isNumber = false

theorem readAll_blank_append {blank : List Char} (h : Blank blank) (steps : Nat)
    (cs : List Char) : readAll steps (blank ++ cs) = readAll steps cs := by
  cases steps with
  | zero => rw [readAll, readAll, h.dropWhile_append]
  | succ steps => rw [readAll, readAll, h.dropWhile_append]

theorem readAll_nil (steps : Nat) : readAll steps [] = some [] := by
  cases steps <;> rfl

theorem readAll_succ {c : Char} (h : isSpace c = false) (steps : Nat) (cs : List Char) :
    readAll (steps + 1) (c :: cs) = (read (c :: cs)).bind fun (token, rest) =>
      (readAll steps rest).map (token :: ·) := by
  have hdrop : (c :: cs).dropWhile isSpace = c :: cs := by simp [h]
  rw [readAll, hdrop]
  cases hread : read (c :: cs) with
  | none => simp only [hread, Option.bind_eq_bind, Option.bind_none]
  | some front =>
    simp only [hread, Option.bind_eq_bind, Option.bind_some]
    cases readAll steps front.2 <;> rfl

/-- The text that has been read spells its tokens. -/
theorem readAll_sound {steps : Nat} {cs : List Char} {tokens : List Token}
    (h : readAll steps cs = some tokens) : Spells tokens cs := by
  induction steps generalizing cs tokens with
  | zero =>
    rw [readAll] at h
    split at h
    · next hblank =>
      cases h
      refine .nil fun c hc => ?_
      rw [List.isEmpty_iff, List.dropWhile_eq_nil_iff] at hblank
      exact hblank c hc
    · cases h
  | succ steps ih =>
    have hblank : Blank (cs.takeWhile isSpace) := fun c hc => List.mem_takeWhile_imp hc
    rw [← cs.takeWhile_append_dropWhile (p := isSpace)] at h ⊢
    rw [readAll_blank_append hblank] at h
    cases hcs : cs.dropWhile isSpace with
    | nil =>
      rw [hcs, readAll_nil] at h
      cases h
      exact .nil (by simpa using hblank)
    | cons c tail =>
      have hc : isSpace c = false := by
        simpa [hcs] using List.head?_dropWhile_not isSpace cs
      rw [hcs, readAll_succ hc, Option.bind_eq_some_iff] at h
      obtain ⟨⟨token, rest⟩, htoken, hrest⟩ := h
      obtain ⟨tokens, htokens, rfl⟩ := Option.map_eq_some_iff.mp hrest
      obtain ⟨chars, hchars, hsplit⟩ := read_sound htoken
      rw [hsplit]
      exact .cons hblank hchars (ih htokens)

/-- A text that spells tokens is read up to where it ends, whatever follows. -/
theorem readAll_append {tokens : List Token} {cs : List Char} (h : Spells tokens cs)
    (hseparated : Separated tokens) (rest : List Char)
    (hrest : ∀ token ∈ tokens.getLast?, token.isNumber → Apart rest) (steps : Nat) :
    readAll (tokens.length + steps) (cs ++ rest) = (readAll steps rest).map (tokens ++ ·) := by
  induction h with
  | nil hblank =>
    rw [readAll_blank_append hblank, List.length_nil, Nat.zero_add]
    simp
  | @cons token tokens blank chars cs hblank htoken htokens ih =>
    obtain ⟨hnext, htail⟩ := List.isChain_cons.mp hseparated
    have hlast : ∀ last ∈ tokens.getLast?, last.isNumber → Apart rest := fun last hlast =>
      hrest last (by simpa [List.getLast?_cons] using congrArg (·.getD token) hlast)
    have happart : ∀ numeral, token = .number numeral → Apart (cs ++ rest) := by
      rintro numeral rfl
      refine htokens.apart (fun next hmem => (hnext next hmem).resolve_left nofun) ?_
      rintro rfl
      exact hrest _ rfl rfl
    have hread := read_complete htoken happart
    obtain ⟨c, chars, rfl, hc, -⟩ := htoken.exists_cons
    rw [List.append_assoc, List.append_assoc, readAll_blank_append hblank, List.length_cons,
      Nat.add_right_comm, List.cons_append, readAll_succ hc, ← List.cons_append, hread,
      Option.bind_some]
    dsimp only
    rw [ih htail hlast]
    cases readAll steps rest <;> rfl

theorem Spells.length_le {tokens : List Token} {cs : List Char} (h : Spells tokens cs) :
    tokens.length ≤ cs.length := by
  induction h with
  | nil => exact Nat.zero_le _
  | cons _ htoken _ ih =>
    obtain ⟨c, tail, rfl, -, -⟩ := htoken.exists_cons
    simp only [List.length_cons, List.length_append]
    omega

/-- A text has the tokens that it spells, if no two numbers stand next to one another. -/
theorem ofText?_eq_some_iff {tokens : List Token} (hseparated : Separated tokens)
    {cs : List Char} : ofText? cs = some tokens ↔ Spells tokens cs := by
  constructor
  · exact readAll_sound
  · intro h
    have hread := readAll_append h hseparated [] (fun _ _ _ => nofun)
      (cs.length - tokens.length)
    rwa [Nat.add_sub_cancel' h.length_le, List.append_nil, readAll_nil, Option.map_some,
      List.append_nil] at hread

/-- What stands behind a text whose last token is not a number has tokens of its own. -/
theorem ofText?_append {tokens all : List Token} {cs rest : List Char} (h : Spells tokens cs)
    (hseparated : Separated tokens) (hlast : ∀ token ∈ tokens.getLast?, token.isNumber = false)
    (hall : ofText? (cs ++ rest) = some all) : ∃ more, all = tokens ++ more ∧ Spells more rest := by
  have hread := readAll_append h hseparated rest
    (fun token hmem hnumber => absurd hnumber (by simp [hlast token hmem]))
    ((cs ++ rest).length - tokens.length)
  have hlength : tokens.length ≤ (cs ++ rest).length :=
    h.length_le.trans (by simp)
  rw [Nat.add_sub_cancel' hlength] at hread
  rw [ofText?, hread] at hall
  obtain ⟨more, hmore, rfl⟩ := Option.map_eq_some_iff.mp hall
  exact ⟨more, rfl, readAll_sound hmore⟩

end Conformance.Json.Token
