set_option autoImplicit false

/-!
# Quoted text

Text literals and quoted identifiers share one form: the quote stands at both ends, and a quote
inside is written twice.  `quoted` writes it and `readQuoted` reads it from the front of a longer
text.  `readQuoted_quoted` says that reading stops exactly where writing ended, whatever follows,
as long as that is not another quote.
-/

namespace Conformance.Sql

/-- The characters with each closing quote doubled. -/
def doubled (quote : Char) : List Char → List Char
  | [] => []
  | c :: cs => if c = quote then quote :: quote :: doubled quote cs else c :: doubled quote cs

/-- The quoted form of a text. -/
def quoted (quote : Char) (cs : List Char) : List Char := quote :: (doubled quote cs ++ [quote])

/-- Reads up to the closing quote, a doubled quote standing for one; `none` if there is none.  The
opening quote has been read already. -/
def readQuoted (quote : Char) : List Char → Option (List Char × List Char)
  | [] => none
  | [c] => if c = quote then some ([], []) else none
  | c :: d :: cs =>
    if c = quote then
      if d = quote then (readQuoted quote cs).map fun (content, rest) => (quote :: content, rest)
      else some ([], d :: cs)
    else (readQuoted quote (d :: cs)).map fun (content, rest) => (c :: content, rest)

/-- Reads the quoted form of a text back, up to where it ends. -/
theorem readQuoted_doubled (quote : Char) (cs rest : List Char) (h : rest.head? ≠ some quote) :
    readQuoted quote (doubled quote cs ++ quote :: rest) = some (cs, rest) := by
  induction cs with
  | nil =>
    cases rest with
    | nil => simp [doubled, readQuoted]
    | cons d rest =>
      have hd : d ≠ quote := by simpa using h
      simp [doubled, readQuoted, hd]
  | cons c cs ih =>
    by_cases hc : c = quote
    · simp [doubled, hc, readQuoted, ih]
    · cases hcs : doubled quote cs ++ quote :: rest with
      | nil => simp at hcs
      | cons d tail =>
        simp only [doubled, hc, if_false, List.cons_append, hcs, readQuoted]
        rw [← hcs, ih]
        rfl

/-- What is left after a quoted text is an end of what was given. -/
theorem suffix_of_readQuoted {quote : Char} {cs content rest : List Char}
    (h : readQuoted quote cs = some (content, rest)) : rest <:+ cs := by
  fun_induction readQuoted quote cs generalizing content rest with
  | case1 => cases h
  | case2 =>
    cases h
    exact List.nil_suffix
  | case3 => cases h
  | case4 cs ih =>
    obtain ⟨⟨content', rest'⟩, hrest, heq⟩ := Option.map_eq_some_iff.mp h
    cases heq
    exact ((ih hrest).trans (List.suffix_cons _ _)).trans (List.suffix_cons _ _)
  | case5 d cs hd =>
    cases h
    exact List.suffix_cons _ _
  | case6 c d cs hc ih =>
    obtain ⟨⟨content', rest'⟩, hrest, heq⟩ := Option.map_eq_some_iff.mp h
    cases heq
    exact (ih hrest).trans (List.suffix_cons _ _)

end Conformance.Sql
