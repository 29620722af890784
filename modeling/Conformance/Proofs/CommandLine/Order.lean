import Conformance.Proofs.CommandLine.Drafts

set_option autoImplicit false

/-!
# Words in any order

The words for some arguments may come in any order, as long as the category sheets keep theirs:
what a switch that may be given once is given, and how often a flag is given, does not depend on
where the words stand (`ArrangedAs.holds`).  So arguments are read back from their words in any such
order (`read_arranged`).
-/

namespace Conformance

open CommandLine

namespace CommandLine

/-! ## What lists of words say -/

theorem textsFor_append (wanted : ValueSwitch) (front back : List Mention) :
    textsFor wanted (front ++ back) = textsFor wanted front ++ textsFor wanted back :=
  List.filterMap_append

theorem textsFor_map (wanted switch : ValueSwitch) (texts : List String) :
    textsFor wanted (texts.map (.value switch)) = if switch = wanted then texts else [] := by
  have htext : Mention.textFor? wanted ∘ Mention.value switch =
      fun text => if switch = wanted then some text else none := rfl
  rw [textsFor, List.filterMap_map, htext]
  by_cases h : switch = wanted <;> simp [h]

/-- Flags have no texts. -/
theorem textsFor_flags (wanted : ValueSwitch) (f : Flag) (n : Nat) :
    textsFor wanted (List.replicate n (.flag f)) = [] := by
  rw [textsFor, List.filterMap_eq_nil_iff]
  intro mention hmention
  rw [List.eq_of_mem_replicate hmention]
  rfl

theorem count_values (f : Flag) (switch : ValueSwitch) (texts : List String) :
    (texts.map (Mention.value switch)).count (.flag f) = 0 := by
  simp [List.count_eq_zero]

theorem textsFor_filter (switch : ValueSwitch) (mentions : List Mention) :
    textsFor switch (mentions.filter fun mention => mention.switch = .value switch) =
      textsFor switch mentions := by
  rw [textsFor, textsFor, List.filterMap_filter]
  congr 1
  funext mention
  cases mention with
  | value other text =>
    by_cases h : other = switch <;> simp [Mention.switch, Mention.textFor?, h]
  | flag f => simp [Mention.switch, Mention.textFor?]

/-- Words in another order say the same of a switch that may be given once. -/
theorem textsFor_perm {switch : ValueSwitch} {mentions others : List Mention}
    (hperm : others.Perm mentions) (hsingle : (textsFor switch mentions).length ≤ 1) :
    textsFor switch others = textsFor switch mentions := by
  have htexts : (textsFor switch others).Perm (textsFor switch mentions) := hperm.filterMap _
  cases hone : textsFor switch mentions with
  | nil => rwa [hone, List.perm_nil] at htexts
  | cons text rest =>
    rw [hone, List.length_cons] at hsingle
    obtain rfl : rest = [] := List.length_eq_zero_iff.mp (by omega)
    rwa [hone, List.perm_singleton] at htexts

end CommandLine

namespace Args

/-! ## The words for some arguments -/

/-- What is to be accepted before the line ends. -/
def draft (args : Args) : Draft where
  input := some args.input
  output := args.output
  schema := args.schema
  layout := args.layout
  overviewSheet := args.overviewSheet
  categorySheets := args.categorySheets
  onDuplicate := args.onDuplicate
  header := args.header
  quiet := args.quiet
  verbose := args.verbose

/-- The mentions, each kind as a list of its own. -/
theorem mentions_eq (args : Args) : args.mentions =
    [args.input].map (.value .input) ++ args.output.toList.map (.value .output) ++
    args.schema.toList.map (.value .schema) ++ args.layout.toList.map (.value .layout) ++
    args.overviewSheet.toList.map (.value .overviewSheet) ++
    args.categorySheets.map (.value .categorySheet) ++
    (args.onDuplicate.map DuplicatePolicy.name).toList.map (.value .onDuplicate) ++
    List.replicate args.header.toNat (.flag .header) ++
    List.replicate args.quiet.toNat (.flag .quiet) ++
    List.replicate args.verbose (.flag .verbose) := by
  have hraised : ∀ (given : Bool) (f : Flag),
      (if given = true then [Mention.flag f] else []) = List.replicate given.toNat (.flag f) := by
    rintro ⟨⟩ f <;> rfl
  simp only [mentions, hraised, Option.toList_map]
  rfl

theorem says_draft {args : Args} (h : args.verbose ≤ verboseLimit) :
    args.draft.Says args.mentions where
  texts := by
    intro switch
    rw [mentions_eq]
    simp only [textsFor_append, textsFor_map, textsFor_flags]
    cases switch <;> simp [Draft.texts, draft]
  count := by
    intro f
    rw [mentions_eq]
    simp only [List.count_append, count_values, List.count_replicate]
    have hraised : ∀ given : Bool, given.toNat ≤ verboseLimit := by decide
    cases f <;> simp [Draft.count, draft, hraised, h]

/-! ## Any order -/

/-- The paths among the arguments. -/
def paths (args : Args) : List String :=
  args.input :: (args.output.toList ++ args.schema.toList ++ args.layout.toList)

/-- No path is empty, and no more detail is asked for than is counted. -/
structure Writable (args : Args) : Prop where
  paths : ∀ path ∈ args.paths, path ≠ ""
  verbose : args.verbose ≤ verboseLimit

/-- The words for the arguments in any order that keeps the category sheets in theirs. -/
structure ArrangedAs (args : Args) (mentions : List Mention) : Prop where
  perm : mentions.Perm args.mentions
  sheets : (mentions.filter fun mention => mention.switch = .value .categorySheet) =
    args.mentions.filter fun mention => mention.switch = .value .categorySheet

variable {args : Args} {mentions : List Mention}

theorem Writable.orderly (h : args.Writable) : Orderly args.mentions where
  acceptable := by
    obtain ⟨hpaths, -⟩ := h
    simp only [Args.paths, List.forall_mem_cons, List.forall_mem_append] at hpaths
    obtain ⟨hinput, ⟨houtput, hschema⟩, hlayout⟩ := hpaths
    rw [mentions_eq]
    simp only [List.forall_mem_append, List.forall_mem_map, List.forall_mem_singleton, and_assoc]
    have hpolicy : ∀ name ∈ (args.onDuplicate.map DuplicatePolicy.name).toList,
        ValueSwitch.onDuplicate.Accepts name := by
      rw [Option.toList_map]
      rintro _ hname
      obtain ⟨policy, -, rfl⟩ := List.mem_map.mp hname
      exact ⟨policy, rfl⟩
    have hflags : ∀ (f : Flag) (n : Nat), (Mention.flag f).Acceptable →
        ∀ mention ∈ List.replicate n (Mention.flag f), mention.Acceptable := by
      intro f n hf mention hmention
      rwa [List.eq_of_mem_replicate hmention]
    exact ⟨hinput, houtput, hschema, hlayout, fun _ _ => trivial, fun _ _ => trivial, hpolicy,
      hflags .header _ trivial, hflags .quiet _ trivial, hflags .verbose _ trivial⟩
  once := fun _ hsingle => (says_draft h.verbose).once hsingle

theorem ArrangedAs.holds (h : args.ArrangedAs mentions) (hverbose : args.verbose ≤ verboseLimit) :
    args.draft.Says mentions where
  texts := by
    intro switch
    rw [(says_draft hverbose).texts]
    by_cases hsingle : (Switch.value switch).isRepeatable = false
    · refine (textsFor_perm h.perm ?_).symm
      rw [← count_value]
      exact (says_draft hverbose).once hsingle
    · obtain rfl : switch = .categorySheet := by
        cases switch <;> first | rfl | exact absurd rfl hsingle
      rw [← textsFor_filter, ← h.sheets, textsFor_filter]
  count := by
    intro f
    rw [(says_draft hverbose).count, h.perm.count_eq]

/-- Arguments are read back from their words in any order that keeps the category sheets in theirs,
whatever characters the paths and names are made of.  A second word for a switch that may be given
once is a conflict, wherever it stands; and if only the word for the workbook is left out, that
argument is missing. -/
theorem read_arranged (hargs : args.Writable) (h : args.ArrangedAs mentions) :
    CommandLine.read (mentions.map Mention.word) = .ok args ∧
    (∀ (front back : List Mention) (again : Mention), mentions = front ++ back →
      again.switch.isRepeatable = false → again.switch ∈ mentions.map Mention.switch →
        again.Acceptable ∨ again.switch ∈ front.map Mention.switch →
          CommandLine.read ((front ++ again :: back).map Mention.word) = .error .conflict) ∧
    CommandLine.read ((mentions.filter fun mention => mention.switch ≠ .value .input).map
      Mention.word) = .error .missingInput := by
  have horderly : Orderly mentions := hargs.orderly.perm h.perm
  refine ⟨?_, ?_, ?_⟩
  · obtain ⟨draft, haccepted, hdraft⟩ := horderly.exists_accepted
    obtain rfl := hdraft.unique (h.holds hargs.verbose)
    rw [read_mentions, haccepted]
    rfl
  · rintro front back again rfl hsingle hgiven hvalue
    rw [read_mentions, horderly.again hsingle hgiven hvalue]
    rfl
  · obtain ⟨draft, haccepted, hdraft⟩ := (horderly.sublist List.filter_sublist).exists_accepted
    rw [read_mentions, haccepted]
    refine hdraft.args_eq_error ?_
    simp

/-- Arguments with values that look like switches. -/
def tricky : Args where
  input := "--input=a b"
  output := some "-"
  overviewSheet := some "=-"
  categorySheets := ["--", "A", "--"]
  onDuplicate := some .lastWins
  header := true
  verbose := 2

/-- Words for these arguments in another order. -/
def trickyMentions : List Mention :=
  [.flag .verbose, .value .categorySheet "--", .value .onDuplicate "last-wins",
   .value .categorySheet "A", .flag .header, .value .input "--input=a b",
   .value .categorySheet "--", .value .overviewSheet "=-", .flag .verbose, .value .output "-"]

theorem tricky_arranged :
    tricky.Writable ∧ tricky.ArrangedAs trickyMentions ∧
      CommandLine.read (trickyMentions.map Mention.word) = .ok tricky ∧
      CommandLine.read ((.value .output "x" :: trickyMentions).map Mention.word) =
        .error .conflict ∧
      CommandLine.read ((trickyMentions.filter fun mention =>
        mention.switch ≠ .value .input).map Mention.word) = .error .missingInput := by
  have hargs : tricky.Writable := ⟨by decide, by decide⟩
  have harranged : tricky.ArrangedAs trickyMentions := ⟨by decide, by decide⟩
  obtain ⟨hread, hagain, hmissing⟩ := read_arranged hargs harranged
  exact ⟨hargs, harranged, hread,
    hagain [] trickyMentions (.value .output "x") rfl rfl (by decide)
      (.inl (show "x" ≠ "" by decide)), hmissing⟩

end Args

end Conformance
