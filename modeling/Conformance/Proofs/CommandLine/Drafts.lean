import Conformance.Proofs.CommandLine.Words
import Mathlib.Data.Option.Basic

set_option autoImplicit false

/-!
# What words have said

A draft holds, for each switch, the texts that the words before have for it, and for each flag how
often they have it (`Draft.Says`).  One more word is accepted unless its switch may be given once
and has been given (`Draft.Says.accept`, `Draft.Says.conflict`).  So words are accepted one after
the other as long as no switch is given again that may be given once, and what they come to is
determined by the texts and the counts alone.
-/

namespace Conformance.CommandLine

/-- The switch may be given more than once. -/
def Switch.isRepeatable : Switch → Bool
  | .value .categorySheet | .flag .verbose => true
  | _ => false

/-- The texts that a switch accepts: paths that are not empty, any names, the names of policies. -/
def ValueSwitch.Accepts (text : String) : ValueSwitch → Prop
  | .input | .output | .schema | .layout => text ≠ ""
  | .overviewSheet | .categorySheet => True
  | .onDuplicate => ∃ policy : DuplicatePolicy, policy.name = text

namespace Mention

/-- The switch that a word names. -/
def switch : Mention → Switch
  | .value switch _ => .value switch
  | .flag f => .flag f

/-- The word can be accepted where its switch has not been given before. -/
def Acceptable : Mention → Prop
  | .value switch text => switch.Accepts text
  | .flag .help | .flag .version => False
  | .flag _ => True

/-- The text that a word has for a switch. -/
def textFor? (wanted : ValueSwitch) : Mention → Option String
  | .value switch text => if switch = wanted then some text else none
  | .flag _ => none

end Mention

/-- The texts that words have for a switch, in order. -/
def textsFor (switch : ValueSwitch) (mentions : List Mention) : List String :=
  mentions.filterMap (Mention.textFor? switch)

theorem count_value (switch : ValueSwitch) (mentions : List Mention) :
    (mentions.map Mention.switch).count (.value switch) = (textsFor switch mentions).length := by
  induction mentions with
  | nil => rfl
  | cons mention mentions ih =>
    rw [List.map_cons, List.count_cons, ih, textsFor, textsFor, List.filterMap_cons]
    cases mention with
    | value other text =>
      by_cases h : other = switch <;> simp [Mention.switch, Mention.textFor?, h]
    | flag f => simp [Mention.switch, Mention.textFor?]

theorem count_flag (f : Flag) (mentions : List Mention) :
    (mentions.map Mention.switch).count (.flag f) = mentions.count (.flag f) := by
  induction mentions with
  | nil => rfl
  | cons mention mentions ih =>
    rw [List.map_cons, List.count_cons, List.count_cons, ih]
    cases mention <;> simp [Mention.switch]

namespace Draft

/-- The texts that have been accepted for a switch. -/
def texts (draft : Draft) : ValueSwitch → List String
  | .input => draft.input.toList
  | .output => draft.output.toList
  | .schema => draft.schema.toList
  | .layout => draft.layout.toList
  | .overviewSheet => draft.overviewSheet.toList
  | .categorySheet => draft.categorySheets
  | .onDuplicate => (draft.onDuplicate.map DuplicatePolicy.name).toList

/-- How often a flag has been accepted. -/
def count (draft : Draft) : Flag → Nat
  | .header => draft.header.toNat
  | .quiet => draft.quiet.toNat
  | .verbose => draft.verbose
  | .help | .version => 0

/-- The words are what has been accepted. -/
structure Says (draft : Draft) (mentions : List Mention) : Prop where
  texts : ∀ switch, draft.texts switch = textsFor switch mentions
  count : ∀ f, draft.count f = min verboseLimit (mentions.count (.flag f))

theorem says_nil : Says {} [] where
  texts := by rintro ⟨⟩ <;> rfl
  count := by rintro ⟨⟩ <;> rfl

/-! ## One more word -/

/-- The draft with a text for a switch, behind those that are there or in the place that is free. -/
def put (draft : Draft) (text : String) : ValueSwitch → Draft
  | .input => { draft with input := some text }
  | .output => { draft with output := some text }
  | .schema => { draft with schema := some text }
  | .layout => { draft with layout := some text }
  | .overviewSheet => { draft with overviewSheet := some text }
  | .categorySheet => { draft with categorySheets := draft.categorySheets ++ [text] }
  | .onDuplicate => { draft with onDuplicate := DuplicatePolicy.ofName? text }

theorem texts_put {draft : Draft} {switch : ValueSwitch} {text : String}
    (haccepts : switch.Accepts text)
    (hnew : (Switch.value switch).isRepeatable = false → draft.texts switch = [])
    (other : ValueSwitch) :
    (draft.put text switch).texts other =
      draft.texts other ++ if switch = other then [text] else [] := by
  by_cases h : switch = other
  · subst h
    rw [if_pos rfl]
    -- only category sheets come behind others; any other place was free
    cases switch with
    | categorySheet => rfl
    | onDuplicate =>
      obtain ⟨policy, rfl⟩ := haccepts
      rw [hnew rfl, texts, put, DuplicatePolicy.ofName?_name]
      rfl
    | _ => rw [hnew rfl]; rfl
  · rw [if_neg h, List.append_nil]
    cases switch <;> cases other <;> first | rfl | exact absurd rfl h

theorem count_put (draft : Draft) (switch : ValueSwitch) (text : String) :
    (draft.put text switch).count = draft.count := by
  funext f
  cases switch <;> rfl

theorem fill_eq_ok {α : Type} {place : Option α} {value : Except Stop α} {a : α}
    (hplace : place = none) (hvalue : value = .ok a) : fill place value = .ok (some a) := by
  rw [hplace, hvalue]
  rfl

theorem readPath_eq_ok {text : String} (h : text ≠ "") : readPath text = .ok text := if_neg h

theorem give_eq_ok {draft : Draft} {switch : ValueSwitch} {text : String}
    (haccepts : switch.Accepts text)
    (hnew : (Switch.value switch).isRepeatable = false → draft.texts switch = []) :
    draft.give switch text = .ok (draft.put text switch) := by
  cases switch with
  | categorySheet => rfl
  | overviewSheet => rw [give, fill_eq_ok (by simpa [texts] using hnew rfl) rfl]; rfl
  | onDuplicate =>
    obtain ⟨policy, rfl⟩ := haccepts
    have hread : readPolicy policy.name = .ok policy := by simp [readPolicy]
    rw [give, fill_eq_ok (by simpa [texts] using hnew rfl) hread, put, DuplicatePolicy.ofName?_name]
    rfl
  | _ => rw [give, fill_eq_ok (by simpa [texts] using hnew rfl) (readPath_eq_ok haccepts)]; rfl

theorem give_eq_conflict {draft : Draft} {switch : ValueSwitch}
    (hsingle : (Switch.value switch).isRepeatable = false) (hgiven : draft.texts switch ≠ [])
    (text : String) : draft.give switch text = .error .conflict := by
  have hfill : ∀ {α : Type} {place : Option α} (value : Except Stop α), place ≠ none →
      fill place value = .error .conflict := by
    intro α place value hplace
    rw [fill, if_pos (Option.isSome_iff_ne_none.mpr hplace)]
  cases switch with
  | categorySheet => cases hsingle
  | _ => rw [give, hfill _ (by simpa [texts] using hgiven)]; rfl

/-- A flag that has not been given, or that counts, is counted once more. -/
theorem set_eq_ok {draft : Draft} {f : Flag} (haccepts : (Mention.flag f).Acceptable)
    (hnew : (Switch.flag f).isRepeatable = false → draft.count f = 0) :
    ∃ next, draft.set f = .ok next ∧ next.texts = draft.texts ∧
      ∀ other, next.count other =
        if f = other then min verboseLimit (draft.count f + 1) else draft.count other := by
  cases f with
  | header =>
    have hlow : draft.header = false := by simpa [count] using hnew rfl
    refine ⟨{ draft with header := true }, by rw [set, hlow]; rfl, rfl, ?_⟩
    rintro ⟨⟩ <;> simp [count, hlow, verboseLimit]
  | quiet =>
    have hlow : draft.quiet = false := by simpa [count] using hnew rfl
    refine ⟨{ draft with quiet := true }, by rw [set, hlow]; rfl, rfl, ?_⟩
    rintro ⟨⟩ <;> simp [count, hlow, verboseLimit]
  | verbose =>
    refine ⟨_, rfl, rfl, ?_⟩
    rintro ⟨⟩ <;> simp [count]
  | help | version => cases haccepts

theorem set_eq_conflict {draft : Draft} {f : Flag}
    (hsingle : (Switch.flag f).isRepeatable = false) (hgiven : draft.count f ≠ 0) :
    draft.set f = .error .conflict := by
  cases f with
  | header =>
    have hraised : draft.header = true := by simpa [count] using hgiven
    rw [set, hraised]
    rfl
  | quiet =>
    have hraised : draft.quiet = true := by simpa [count] using hgiven
    rw [set, hraised]
    rfl
  | verbose => cases hsingle
  | help | version => exact absurd rfl hgiven

variable {draft : Draft} {mentions : List Mention} {mention : Mention}

/-- A switch has been given when there is a text or a count for it. -/
theorem Says.texts_eq_nil_iff (h : draft.Says mentions) (switch : ValueSwitch) :
    draft.texts switch = [] ↔ .value switch ∉ mentions.map Mention.switch := by
  rw [h.texts, ← List.count_eq_zero, count_value, List.length_eq_zero_iff]

theorem Says.count_eq_zero_iff (h : draft.Says mentions) (f : Flag) :
    draft.count f = 0 ↔ .flag f ∉ mentions.map Mention.switch := by
  rw [h.count, ← List.count_eq_zero, count_flag, verboseLimit]
  omega

/-- One more word that can be accepted. -/
theorem Says.accept (h : draft.Says mentions) (haccepts : mention.Acceptable)
    (hnew : mention.switch.isRepeatable = false → mention.switch ∉ mentions.map Mention.switch) :
    ∃ next, draft.accept mention = .ok next ∧ next.Says (mentions ++ [mention]) := by
  cases mention with
  | value switch text =>
    have hfree : (Switch.value switch).isRepeatable = false → draft.texts switch = [] :=
      fun hsingle => (h.texts_eq_nil_iff switch).mpr (hnew hsingle)
    refine ⟨draft.put text switch, give_eq_ok haccepts hfree, ?_, ?_⟩
    · intro other
      rw [texts_put haccepts hfree, h.texts, textsFor, textsFor, List.filterMap_append]
      by_cases hother : switch = other <;> simp [Mention.textFor?, hother]
    · intro f
      rw [count_put, h.count]
      simp
  | flag f =>
    have hfree : (Switch.flag f).isRepeatable = false → draft.count f = 0 :=
      fun hsingle => (h.count_eq_zero_iff f).mpr (hnew hsingle)
    obtain ⟨next, hset, htexts, hcount⟩ := set_eq_ok haccepts hfree
    refine ⟨next, hset, ?_, ?_⟩
    · intro other
      rw [htexts, h.texts, textsFor, textsFor, List.filterMap_append]
      simp [Mention.textFor?]
    · intro other
      rw [hcount, List.count_append, h.count, h.count, verboseLimit]
      by_cases hother : f = other
      · simp [hother]
        omega
      · simp [hother]

/-- A switch that may be given once is not accepted again. -/
theorem Says.conflict (h : draft.Says mentions) (hsingle : mention.switch.isRepeatable = false)
    (hgiven : mention.switch ∈ mentions.map Mention.switch) :
    draft.accept mention = .error .conflict := by
  cases mention with
  | value switch text =>
    exact give_eq_conflict hsingle (fun hnil => (h.texts_eq_nil_iff switch).mp hnil hgiven) text
  | flag f =>
    exact set_eq_conflict hsingle fun hzero => (h.count_eq_zero_iff f).mp hzero hgiven

/-- Without a word for it the workbook is not named. -/
theorem Says.args_eq_error (h : draft.Says mentions)
    (hmissing : .value .input ∉ mentions.map Mention.switch) :
    draft.args = .error .missingInput := by
  have hnone : draft.input = none :=
    Option.toList_eq_nil_iff.mp ((h.texts_eq_nil_iff .input).mpr hmissing)
  rw [args, hnone]

/-- A switch that may be given once has been given once at most. -/
theorem Says.once (h : draft.Says mentions) {switch : Switch}
    (hsingle : switch.isRepeatable = false) :
    (mentions.map Mention.switch).count switch ≤ 1 := by
  cases switch with
  | value switch =>
    have hplace : ∀ place : Option String, place.toList.length ≤ 1 := by rintro ⟨⟩ <;> simp
    rw [count_value, ← h.texts]
    cases switch with
    | categorySheet => cases hsingle
    | _ => exact hplace _
  | flag f =>
    have hflag : draft.count f ≤ 1 := by
      cases f with
      | verbose => cases hsingle
      | header => exact Bool.toNat_le draft.header
      | quiet => exact Bool.toNat_le draft.quiet
      | help | version => exact Nat.zero_le 1
    rw [h.count, verboseLimit] at hflag
    rw [count_flag]
    omega

theorem eq_of_toList_eq {α : Type} {place other : Option α} (h : place.toList = other.toList) :
    place = other := by
  cases place <;> cases other <;> simp_all

/-- What has been accepted is determined by the words. -/
theorem Says.unique {other : Draft} (h : draft.Says mentions) (hother : other.Says mentions) :
    draft = other := by
  have htexts : ∀ switch, draft.texts switch = other.texts switch := fun switch =>
    (h.texts switch).trans (hother.texts switch).symm
  have hcount : ∀ f, draft.count f = other.count f := fun f =>
    (h.count f).trans (hother.count f).symm
  have hname : Function.Injective DuplicatePolicy.name := by
    intro policy policy' hname
    simpa using congrArg DuplicatePolicy.ofName? hname
  have hraised : ∀ flag flag' : Bool, flag.toNat = flag'.toNat → flag = flag' := by decide
  cases draft
  cases other
  rw [Draft.mk.injEq]
  exact ⟨eq_of_toList_eq (htexts .input), eq_of_toList_eq (htexts .output),
    eq_of_toList_eq (htexts .schema), eq_of_toList_eq (htexts .layout),
    eq_of_toList_eq (htexts .overviewSheet), htexts .categorySheet,
    Option.map_injective hname (eq_of_toList_eq (htexts .onDuplicate)),
    hraised _ _ (hcount .header), hraised _ _ (hcount .quiet), hcount .verbose⟩

end Draft

/-! ## All words -/

/-- Words that can be accepted, in which no switch is given again that may be given once. -/
structure Orderly (mentions : List Mention) : Prop where
  acceptable : ∀ mention ∈ mentions, mention.Acceptable
  once : ∀ switch : Switch, switch.isRepeatable = false →
    (mentions.map Mention.switch).count switch ≤ 1

namespace Orderly

variable {mentions : List Mention}

theorem sublist {kept : List Mention} (h : Orderly mentions) (hkept : kept.Sublist mentions) :
    Orderly kept where
  acceptable := fun mention hmention => h.acceptable mention (hkept.subset hmention)
  once := fun switch hsingle =>
    Nat.le_trans ((hkept.map Mention.switch).count_le switch) (h.once switch hsingle)

theorem perm {others : List Mention} (h : Orderly mentions) (hperm : others.Perm mentions) :
    Orderly others where
  acceptable := fun mention hmention => h.acceptable mention (hperm.subset hmention)
  once := by
    intro switch hsingle
    rw [(hperm.map Mention.switch).count_eq]
    exact h.once switch hsingle

end Orderly

/-- Orderly words are accepted one after the other. -/
theorem Draft.Says.foldlM {draft : Draft} {before mentions : List Mention} (h : draft.Says before)
    (horderly : Orderly (before ++ mentions)) :
    ∃ last, mentions.foldlM Draft.accept draft = .ok last ∧ last.Says (before ++ mentions) := by
  induction mentions generalizing draft before with
  | nil => exact ⟨draft, rfl, by simpa using h⟩
  | cons mention mentions ih =>
    -- the line has the switch once at most, and here it is
    have hnew : mention.switch.isRepeatable = false →
        mention.switch ∉ before.map Mention.switch := by
      intro hsingle hgiven
      have honce := horderly.once mention.switch hsingle
      rw [List.map_append, List.count_append, List.map_cons, List.count_cons_self] at honce
      have hpos := List.count_pos_iff.mpr hgiven
      omega
    obtain ⟨next, haccept, hnext⟩ := h.accept (horderly.acceptable mention (by simp)) hnew
    obtain ⟨last, hlast, hdraft⟩ := ih hnext (by simpa using horderly)
    refine ⟨last, ?_, by simpa using hdraft⟩
    rw [List.foldlM_cons, haccept]
    exact hlast

theorem Orderly.exists_accepted {mentions : List Mention} (h : Orderly mentions) :
    ∃ draft, mentions.foldlM Draft.accept {} = .ok draft ∧ draft.Says mentions :=
  Draft.says_nil.foldlM h

/-- Reading stops where a switch is given again. -/
theorem Orderly.conflict {front : List Mention} {mention : Mention} (h : Orderly front)
    (hsingle : mention.switch.isRepeatable = false)
    (hgiven : mention.switch ∈ front.map Mention.switch) (back : List Mention) :
    (front ++ mention :: back).foldlM Draft.accept {} = .error .conflict := by
  obtain ⟨draft, hfront, hdraft⟩ := h.exists_accepted
  rw [List.foldlM_append, hfront]
  change (mention :: back).foldlM Draft.accept draft = _
  rw [List.foldlM_cons, hdraft.conflict hsingle hgiven]
  rfl

/-- A switch that may be given once is not accepted with a second word anywhere in the line: not
with one that could be accepted alone, and behind the first not with any. -/
theorem Orderly.again {front back : List Mention} {mention : Mention}
    (h : Orderly (front ++ back)) (hsingle : mention.switch.isRepeatable = false)
    (hgiven : mention.switch ∈ (front ++ back).map Mention.switch)
    (hvalue : mention.Acceptable ∨ mention.switch ∈ front.map Mention.switch) :
    (front ++ mention :: back).foldlM Draft.accept {} = .error .conflict := by
  by_cases hfront : mention.switch ∈ front.map Mention.switch
  · exact (h.sublist (List.sublist_append_left front back)).conflict hsingle hfront back
  -- the new word is accepted, and the one behind it is not
  · have hback : mention.switch ∈ back.map Mention.switch := by
      rw [List.map_append, List.mem_append] at hgiven
      exact hgiven.resolve_left hfront
    obtain ⟨held, hheld, hswitch⟩ := List.mem_map.mp hback
    obtain ⟨middle, rest, rfl⟩ := List.append_of_mem hheld
    have hfirst : Orderly (front ++ mention :: middle) := by
      constructor
      · intro other hother
        rcases List.mem_append.mp hother with hother | hother
        · exact h.acceptable other (by simp [hother])
        · rcases List.mem_cons.mp hother with rfl | hother
          · exact hvalue.resolve_right hfront
          · exact h.acceptable other (by simp [hother])
      · intro switch hswitchSingle
        have honce := h.once switch hswitchSingle
        simp only [List.map_append, List.map_cons, List.count_append, List.count_cons, hswitch]
          at honce ⊢
        omega
    have hline : front ++ mention :: (middle ++ held :: rest) =
        (front ++ mention :: middle) ++ held :: rest := by simp
    rw [hline]
    exact hfirst.conflict (by rwa [hswitch]) (by simp [hswitch]) rest

end Conformance.CommandLine
