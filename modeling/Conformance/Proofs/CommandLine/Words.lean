import Conformance.CommandLine.Writing
import Mathlib.Data.List.TakeWhile

set_option autoImplicit false

/-!
# Reading written words

A written word is read as what it was written for: the long name ends at the first equals sign,
whatever the value behind it looks like, and as the value is in the same word nothing is left to
check.  So reading a line of such words is accepting what each of them says, from left to right
(`read_mentions`).
-/

namespace Conformance.CommandLine

/-- No long name holds an equals sign. -/
theorem Switch.ne_equals_of_mem_long (switch : Switch) :
    ∀ c ∈ switch.long.toList, (c != '=') = true := by
  rw [← List.all_eq_true]
  rcases switch with switch | flag
  · cases switch <;> decide
  · cases flag <;> decide

/-- Accepts what a word says. -/
def Draft.accept (draft : Draft) : Mention → Except Stop Draft
  | .value switch text => draft.give switch text
  | .flag f => draft.set f

namespace Mention

theorem toList_word_value (switch : ValueSwitch) (text : String) :
    (Mention.value switch text).word.toList =
      '-' :: '-' :: ((Switch.value switch).long.toList ++ '=' :: text.toList) := by
  change ("--" ++ (Switch.value switch).long ++ "=" ++ text).toList = _
  simp

theorem toList_word_flag (f : Flag) :
    (Mention.flag f).word.toList = '-' :: '-' :: (Switch.flag f).long.toList := by
  change ("--" ++ (Switch.flag f).long).toList = _
  simp

/-- No word is two hyphens alone. -/
theorem word_ne_hyphens (mention : Mention) : mention.word ≠ "--" := by
  intro h
  have hlist : mention.word.toList = ['-', '-'] := by rw [h]; rfl
  cases mention with
  | value switch text =>
    rw [toList_word_value] at hlist
    simp at hlist
  | flag f =>
    rw [toList_word_flag] at hlist
    cases f <;> exact absurd hlist (by decide)

end Mention

namespace State

theorem long_value (s : State) (switch : ValueSwitch) (text : List Char) :
    s.long ((Switch.value switch).long.toList ++ '=' :: text) =
      s.give switch (String.ofList text) := by
  have hname := (Switch.value switch).ne_equals_of_mem_long
  simp [long, List.takeWhile_append_of_pos hname, List.dropWhile_append_of_pos hname,
    Switch.ofLong?_long]

theorem long_flag (s : State) (flag : Flag) :
    s.long (Switch.flag flag).long.toList = s.flag flag := by
  have hname := (Switch.flag flag).ne_equals_of_mem_long
  have htake : (Switch.flag flag).long.toList.takeWhile (· != '=') =
      (Switch.flag flag).long.toList := List.takeWhile_eq_self_iff.mpr hname
  have hcontains : (Switch.flag flag).long.toList.contains '=' = false := by
    cases flag <;> decide
  simp only [long, htake, hcontains, String.ofList_toList, Switch.ofLong?_long]
  rfl

/-- With nothing left to check, a word goes to what has been accepted. -/
theorem word_mention (draft : Draft) (mention : Mention) :
    State.word { draft } mention.word = (draft.accept mention).map fun draft => { draft } := by
  cases mention with
  | value switch text =>
    have hgive : State.give { draft } switch text =
        (draft.give switch text).bind fun draft => .ok { draft } := rfl
    rw [word, Mention.toList_word_value]
    simp only [long_value, String.ofList_toList, hgive, Draft.accept]
    cases draft.give switch text <;> rfl
  | flag f =>
    have hflag : State.flag { draft } f = (draft.set f).bind fun draft => .ok { draft } := rfl
    rw [word, Mention.toList_word_flag]
    simp only [long_flag, hflag, Draft.accept]
    cases draft.set f <;> rfl

theorem words_mentions (draft : Draft) (mentions : List Mention) :
    words { draft } (mentions.map Mention.word) = mentions.foldlM Draft.accept draft := by
  induction mentions generalizing draft with
  | nil => rfl
  | cons mention mentions ih =>
    rw [List.map_cons, words, if_neg mention.word_ne_hyphens, word_mention, List.foldlM_cons]
    cases draft.accept mention with
    | error stop => rfl
    | ok next => exact ih next

end State

theorem read_mentions (mentions : List Mention) :
    read (mentions.map Mention.word) = (mentions.foldlM Draft.accept {}).bind Draft.args := by
  rw [read, State.words_mentions]
  rfl

end Conformance.CommandLine
