import Conformance.Sql.Literal
import Mathlib.Logic.Function.Basic

set_option autoImplicit false

/-!
# Quoted text within other text

A reader of quoted text is in step with its writer after every character, whatever comes next
(`readQuoted_doubled_append`).  So a quoted text is read back from the front of anything that does
not begin with another quote, and even where one follows, reading does not stop before the quoted
text ends: no value can end its own literal (`quoting_safe`).
-/

namespace Conformance.Sql

/-! ## Reading behind characters that were written -/

theorem readQuoted_cons_of_ne {quote c : Char} (h : c ≠ quote) (cs : List Char) :
    readQuoted quote (c :: cs) =
      (readQuoted quote cs).map fun (content, rest) => (c :: content, rest) := by
  cases cs with
  | nil => simp [readQuoted, h]
  | cons d cs => rw [readQuoted, if_neg h]

/-- What was written comes back first, and then what reading makes of the rest. -/
theorem readQuoted_doubled_append (quote : Char) (cs rest : List Char) :
    readQuoted quote (doubled quote cs ++ rest) =
      (readQuoted quote rest).map fun (content, left) => (cs ++ content, left) := by
  induction cs with
  | nil => simp [doubled]
  | cons c cs ih =>
    by_cases hc : c = quote
    · rw [doubled, if_pos hc, List.cons_append, List.cons_append, readQuoted, if_pos rfl,
        if_pos rfl, ih, Option.map_map, hc]
      rfl
    · rw [doubled, if_neg hc, List.cons_append, readQuoted_cons_of_ne hc, ih, Option.map_map]
      rfl

/-- Reading that begins at a quote ends behind it, or later. -/
theorem suffix_of_readQuoted_quote {quote : Char} {cs content left : List Char}
    (h : readQuoted quote (quote :: cs) = some (content, left)) : left <:+ cs := by
  cases cs with
  | nil =>
    rw [readQuoted, if_pos rfl] at h
    cases h
    exact List.nil_suffix
  | cons d cs =>
    rw [readQuoted, if_pos rfl] at h
    split at h
    · obtain ⟨⟨content', left'⟩, hread, heq⟩ := Option.map_eq_some_iff.mp h
      cases heq
      exact (suffix_of_readQuoted hread).trans (List.suffix_cons _ _)
    · cases h
      exact List.suffix_rfl

/-! ## Whole literals -/

/-- Reads a quoted text from its opening quote on, and leaves what stands behind it. -/
def readLiteral? (quote : Char) : List Char → Option (String × List Char)
  | [] => none
  | c :: cs =>
    if c = quote then
      (readQuoted quote cs).map fun (content, rest) => (String.ofList content, rest)
    else none

/-- A written form is a literal of a value. -/
structure IsLiteral (quote : Char) (written value : String) : Prop where
  /-- Unless a quote follows, reading stops at its end and yields the value. -/
  reads : ∀ rest : List Char, rest.head? ≠ some quote →
    readLiteral? quote (written.toList ++ rest) = some (value, rest)
  /-- Whatever follows, reading does not stop before its end. -/
  whole : ∀ (rest left : List Char) (content : String),
    readLiteral? quote (written.toList ++ rest) = some (content, left) → left <:+ rest

theorem readLiteral?_quoted (quote : Char) (cs rest : List Char) :
    readLiteral? quote (quoted quote cs ++ rest) =
      (readQuoted quote (doubled quote cs ++ quote :: rest)).map fun (content, left) =>
        (String.ofList content, left) := by
  rw [quoted, List.cons_append, List.append_assoc, List.singleton_append, readLiteral?, if_pos rfl]

theorem isLiteral_quoted (quote : Char) (value : String) :
    IsLiteral quote (String.ofList (quoted quote value.toList)) value where
  reads := by
    intro rest hrest
    rw [String.toList_ofList, readLiteral?_quoted, readQuoted_doubled quote value.toList rest hrest]
    simp
  whole := by
    intro rest left content h
    rw [String.toList_ofList, readLiteral?_quoted, readQuoted_doubled_append, Option.map_map] at h
    obtain ⟨⟨content', left'⟩, hread, heq⟩ := Option.map_eq_some_iff.mp h
    cases heq
    exact suffix_of_readQuoted_quote hread

/-- A written form is a literal of one value only. -/
theorem IsLiteral.unique {quote : Char} {written a b : String} (ha : IsLiteral quote written a)
    (hb : IsLiteral quote written b) : a = b := by
  have hread := (ha.reads [] (by simp)).symm.trans (hb.reads [] (by simp))
  exact congrArg Prod.fst (Option.some.inj hread)

theorem isLiteral_of_quoteText {value literal : String} (h : quoteText value = .ok literal) :
    IsLiteral '\x27' literal value := by
  rw [quoteText] at h
  split at h
  · cases h
  · cases h
    exact isLiteral_quoted '\x27' value

theorem isLiteral_quoteIdentifier (name : String) :
    IsLiteral '\x22' (quoteIdentifier name) name :=
  isLiteral_quoted '\x22' name

/-- Text has a literal unless it holds NUL, identifiers always have one, and a literal is read back
in whatever text it stands; no two values share one. -/
theorem quoting_safe :
    (∀ value, (∃ e, quoteText value = .error e) ↔ '\x00' ∈ value.toList) ∧
    (∀ value, '\x00' ∉ value.toList →
      ∃ literal, quoteText value = .ok literal ∧ IsLiteral '\x27' literal value) ∧
    (∀ name, IsLiteral '\x22' (quoteIdentifier name) name) ∧
    (∀ a b literal, quoteText a = .ok literal → quoteText b = .ok literal → a = b) ∧
    Function.Injective quoteIdentifier := by
  refine ⟨?_, ?_, isLiteral_quoteIdentifier, ?_, ?_⟩
  · intro value
    constructor
    · rintro ⟨e, he⟩
      exact quoteText_eq_error_iff.mp he
    · intro hnul
      exact ⟨.nulCharacter, quoteText_eq_error_iff.mpr hnul⟩
  · intro value hnul
    have hquote : quoteText value = .ok (String.ofList (quoted '\x27' value.toList)) := by
      rw [quoteText, if_neg hnul]
    exact ⟨_, hquote, isLiteral_of_quoteText hquote⟩
  · intro a b literal ha hb
    exact (isLiteral_of_quoteText ha).unique (isLiteral_of_quoteText hb)
  · intro a b hab
    have hb := isLiteral_quoteIdentifier b
    rw [← hab] at hb
    exact (isLiteral_quoteIdentifier a).unique hb

/-- A value that tries to close its literal and to begin a statement of its own. -/
theorem hostile_quoting_safe :
    '\x00' ∉ "''); DROP TABLE t; --'".toList ∧
      ∃ literal, quoteText "''); DROP TABLE t; --'" = .ok literal ∧
        IsLiteral '\x27' literal "''); DROP TABLE t; --'" := by
  have hnul : '\x00' ∉ "''); DROP TABLE t; --'".toList := by decide
  exact ⟨hnul, quoting_safe.2.1 _ hnul⟩

end Conformance.Sql
