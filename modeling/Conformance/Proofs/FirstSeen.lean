import Mathlib.Data.List.Induction
import Mathlib.Data.List.Nodup

set_option autoImplicit false

/-!
# First occurrences and first repetitions

Identifiers are kept in the order in which they were first seen, and the first one that occurs
again is the one that is reported.  `FirstRepeat` names that element together with the earlier one
it repeats; a list without such a pair has no repetition at all.
-/

namespace Conformance.FirstSeen

variable {α β : Type}

theorem eraseDups_concat_of_notMem [DecidableEq β] {bs : List β} {b : β} (h : b ∉ bs) :
    (bs ++ [b]).eraseDups = bs.eraseDups ++ [b] := by
  rw [List.eraseDups_append]
  have hkeep : [b].removeAll bs = [b] := by simp [List.removeAll, h]
  rw [hkeep]
  simp [List.eraseDups_cons]

theorem eraseDups_concat_of_mem [DecidableEq β] {bs : List β} {b : β} (h : b ∈ bs) :
    (bs ++ [b]).eraseDups = bs.eraseDups := by
  rw [List.eraseDups_append]
  have hdrop : [b].removeAll bs = [] := by simp [List.removeAll, h]
  rw [hdrop]
  simp

theorem eraseDups_of_nodup [DecidableEq β] {bs : List β} (h : bs.Nodup) : bs.eraseDups = bs := by
  induction bs using List.reverseRecOn with
  | nil => rfl
  | append_singleton bs b ih =>
    rw [List.nodup_append_comm, List.singleton_append, List.nodup_cons] at h
    rw [eraseDups_concat_of_notMem h.1, ih h.2]

/-- What comes later does not move what was seen before. -/
theorem eraseDups_isPrefix [DecidableEq β] {bs cs : List β} (h : bs <+: cs) :
    bs.eraseDups <+: cs.eraseDups := by
  obtain ⟨more, rfl⟩ := h
  rw [List.eraseDups_append]
  exact List.prefix_append _ _

/-- Among elements with distinct keys, one alone has each key. -/
theorem filter_eq_singleton_of_nodup [DecidableEq β] {key : α → β} {as : List α}
    (h : (as.map key).Nodup) {a : α} (ha : a ∈ as) :
    (as.filter fun b => key b = key a) = [a] := by
  obtain ⟨before, after, rfl⟩ := List.append_of_mem ha
  rw [List.map_append, List.map_cons, List.nodup_middle, List.nodup_cons, ← List.map_append] at h
  have hothers : ∀ b ∈ before ++ after, ¬ key b = key a := by
    intro b hb hkey
    exact h.1 (hkey ▸ List.mem_map_of_mem hb)
  have hbefore : (before.filter fun b => key b = key a) = [] := by
    simpa [List.filter_eq_nil_iff] using fun b hb => hothers b (List.mem_append_left _ hb)
  have hafter : (after.filter fun b => key b = key a) = [] := by
    simpa [List.filter_eq_nil_iff] using fun b hb => hothers b (List.mem_append_right _ hb)
  rw [List.filter_append, hbefore, List.filter_cons_of_pos (by simp), hafter, List.nil_append]

/-- If not all elements are good, there is a first one that is not. -/
theorem exists_first_not {good : α → Prop} {as : List α} (h : ¬ ∀ a ∈ as, good a) :
    ∃ before a after, as = before ++ a :: after ∧ (∀ b ∈ before, good b) ∧ ¬ good a := by
  induction as with
  | nil => simp at h
  | cons a as ih =>
    by_cases ha : good a
    · have has : ¬ ∀ b ∈ as, good b := fun hall => h (List.forall_mem_cons.mpr ⟨ha, hall⟩)
      obtain ⟨before, b, after, rfl, hbefore, hb⟩ := ih has
      exact ⟨a :: before, b, after, rfl, List.forall_mem_cons.mpr ⟨ha, hbefore⟩, hb⟩
    · exact ⟨[], a, as, rfl, by simp, ha⟩

/-- If not all elements are good, there is a last one that is not. -/
theorem exists_last_not {good : α → Prop} {as : List α} (h : ¬ ∀ a ∈ as, good a) :
    ∃ before a after, as = before ++ a :: after ∧ ¬ good a ∧ ∀ b ∈ after, good b := by
  have hreverse : ¬ ∀ a ∈ as.reverse, good a := by simpa using h
  obtain ⟨after, a, before, hsplit, hafter, ha⟩ := exists_first_not hreverse
  refine ⟨before.reverse, a, after.reverse, ?_, ha, by simpa using hafter⟩
  rw [← as.reverse_reverse, hsplit]
  simp

/-- `second` is the first element whose key occurred before, and `first` the element that had it:
the keys up to `second` are distinct. -/
def FirstRepeat (key : α → β) (as : List α) (first second : α) : Prop :=
  ∃ before between after, as = before ++ first :: (between ++ second :: after) ∧
    ((before ++ first :: between).map key).Nodup ∧ key second = key first

/-- A repetition is one of the keys alone. -/
theorem FirstRepeat.map {γ : Type} {g : α → γ} {key : γ → β} {as : List α} {first second : α}
    (h : FirstRepeat (fun a => key (g a)) as first second) :
    FirstRepeat key (as.map g) (g first) (g second) := by
  obtain ⟨before, between, after, rfl, hnodup, hkey⟩ := h
  refine ⟨before.map g, between.map g, after.map g, by simp, ?_, hkey⟩
  simpa [Function.comp_def] using hnodup

/-- Up to the second of the two, the first is the only element with its key. -/
theorem FirstRepeat.exists_filter_eq [DecidableEq β] {key : α → β} {as : List α}
    {first second : α} (h : FirstRepeat key as first second) :
    ∃ before after, as = before ++ second :: after ∧ (before.map key).Nodup ∧
      (before.filter fun a => key a = key second) = [first] := by
  obtain ⟨before, between, after, rfl, hnodup, hkey⟩ := h
  refine ⟨before ++ first :: between, after, by simp, hnodup, ?_⟩
  rw [hkey]
  exact filter_eq_singleton_of_nodup hnodup (by simp)

/-- A repetition among images comes from one among the elements. -/
theorem FirstRepeat.exists_of_map {γ : Type} {g : α → γ} {key : γ → β} {as : List α}
    {first second : γ} (h : FirstRepeat key (as.map g) first second) :
    ∃ a b, g a = first ∧ g b = second ∧ FirstRepeat (fun a => key (g a)) as a b := by
  obtain ⟨before, between, after, hsplit, hnodup, hkey⟩ := h
  obtain ⟨front, tail, rfl, rfl, htail⟩ := List.map_eq_append_iff.mp hsplit
  obtain ⟨a, rest, rfl, rfl, hrest⟩ := List.map_eq_cons_iff.mp htail
  obtain ⟨middle, last, rfl, rfl, hlast⟩ := List.map_eq_append_iff.mp hrest
  obtain ⟨b, back, rfl, rfl, rfl⟩ := List.map_eq_cons_iff.mp hlast
  refine ⟨a, b, rfl, rfl, front, middle, back, rfl, ?_, hkey⟩
  simpa [Function.comp_def] using hnodup

theorem FirstRepeat.key_eq {key : α → β} {as : List α} {first second : α}
    (h : FirstRepeat key as first second) : key second = key first := by
  obtain ⟨before, between, after, -, -, hkey⟩ := h
  exact hkey

theorem FirstRepeat.mem {key : α → β} {as : List α} {first second : α}
    (h : FirstRepeat key as first second) : first ∈ as ∧ second ∈ as := by
  obtain ⟨before, between, after, rfl, -, -⟩ := h
  simp

/-- The two elements of a repetition stand in the order of the list. -/
theorem FirstRepeat.rel_of_pairwise {r : α → α → Prop} {key : α → β} {as : List α}
    {first second : α} (h : FirstRepeat key as first second) (hr : as.Pairwise r) :
    r first second := by
  obtain ⟨before, between, after, rfl, -, -⟩ := h
  rw [List.pairwise_append] at hr
  exact List.rel_of_pairwise_cons hr.2.1 (by simp)

/-- No other element before the second one has its key. -/
theorem FirstRepeat.eq_first {r : α → α → Prop} {key : α → β} {as : List α} {first second a : α}
    (h : FirstRepeat key as first second) (hr : as.Pairwise r) (hasymm : ∀ b c, r b c → ¬ r c b)
    (ha : a ∈ as) (hbefore : r a second) (hkey : key a = key second) : a = first := by
  obtain ⟨before, between, after, rfl, hnodup, hfirst⟩ := h
  have hsplit : before ++ first :: (between ++ second :: after) =
      (before ++ first :: between) ++ second :: after := by simp
  rw [hsplit] at hr ha
  rcases List.mem_append.mp ha with hfront | hback
  · exact List.inj_on_of_nodup_map hnodup hfront (by simp) (hkey.trans hfirst)
  · rcases List.mem_cons.mp hback with rfl | hafter
    · exact absurd hbefore (hasymm _ _ hbefore)
    · rw [List.pairwise_append] at hr
      exact absurd hbefore (hasymm _ _ (List.rel_of_pairwise_cons hr.2.1 hafter))

/-- Keys that are not distinct have a first repetition. -/
theorem exists_firstRepeat {key : α → β} {as : List α} (h : ¬ (as.map key).Nodup) :
    ∃ first second, FirstRepeat key as first second := by
  induction as using List.reverseRecOn with
  | nil => simp at h
  | append_singleton as a ih =>
    by_cases has : (as.map key).Nodup
    · have hmem : key a ∈ as.map key := by
        by_contra hnot
        apply h
        rw [List.map_append, List.nodup_append]
        refine ⟨has, by simp, ?_⟩
        rintro b hb c hc rfl
        rw [List.map_singleton, List.mem_singleton] at hc
        exact hnot (hc ▸ hb)
      obtain ⟨first, hfirst, hkey⟩ := List.mem_map.mp hmem
      obtain ⟨before, between, rfl⟩ := List.append_of_mem hfirst
      exact ⟨first, a, before, between, [], by simp, has, hkey.symm⟩
    · obtain ⟨first, second, before, between, after, rfl, hnodup, hkey⟩ := ih has
      exact ⟨first, second, before, between, after ++ [a], by simp, hnodup, hkey⟩

end Conformance.FirstSeen
