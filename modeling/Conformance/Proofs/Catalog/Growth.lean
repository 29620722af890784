import Conformance.Proofs.Catalog.Report
import Conformance.Proofs.Dataset.Numbering

set_option autoImplicit false

/-!
# Catalogs that grow

More rows after those that were scanned leave the catalog as it was and add to its end, unless the
last definition of an identifier takes the place of the others.  So the number of an identifier, once
given, stays.  The places of the rows do not matter: two scans are compared by what their rows say,
that is, by their steps without locations (`TestStep.unplaced`).
-/

namespace Conformance

/-- A step, wherever it is defined. -/
def TestStep.unplaced (step : TestStep) : TestStep := { step with location := default }

/-- What the rows define, wherever they stand, is read off their cells. -/
theorem map_unplaced_step (rows : List SheetRow) :
    ((definingRows rows).map SheetRow.step).map TestStep.unplaced =
      (rows.map SheetRow.cells).filterMap fun cells => TestStep.ofRow? ⟨default, cells⟩ := by
  rw [← filterMap_ofRow?, List.map_filterMap, List.filterMap_map]
  apply List.filterMap_congr
  intro row _
  unfold TestStep.ofRow?
  by_cases hid : row.cells.field TestStep.idColumn = "" <;> simp [hid, TestStep.unplaced]

namespace Catalog

/-- The steps of a catalog are what is found under its identifiers. -/
theorem filterMap_get?_ids (c : Catalog) : c.ids.filterMap c.get? = c.steps := by
  have hfound := congrArg (List.filterMap id) c.map_get?_ids
  simpa [List.filterMap_map] using hfound

variable {policy : DuplicatePolicy} {definitions more : List TestStep} {c d : Catalog}

namespace Holds

/-- Identifiers stay in their places when more is defined. -/
theorem ids_isPrefix (hc : c.Holds policy definitions) (hd : d.Holds policy more)
    (h : definitions.map TestStep.unplaced <+: more.map TestStep.unplaced) : c.ids <+: d.ids := by
  have hids : definitions.map TestStep.id <+: more.map TestStep.id := by
    have := h.map TestStep.id
    rwa [List.map_map, List.map_map] at this
  rw [hc.ids, hd.ids]
  exact FirstSeen.eraseDups_isPrefix hids

/-- What stands under an identifier stays when more is defined. -/
theorem get?_of_isPrefix (hkeep : policy ≠ .lastWins) (hc : c.Holds policy definitions)
    (hd : d.Holds policy more)
    (h : definitions.map TestStep.unplaced <+: more.map TestStep.unplaced) {id : String}
    (hid : id ∈ c.ids) :
    (c.get? id).map TestStep.unplaced = (d.get? id).map TestStep.unplaced := by
  have hselect : ∀ steps : List TestStep,
      (steps.filter fun step => step.id = id).map TestStep.unplaced =
        (steps.map TestStep.unplaced).filter fun step => step.id = id := by
    intro steps
    rw [List.filter_map]
    rfl
  rw [hc.get?, hd.get?, ← DuplicatePolicy.keeps_map, ← DuplicatePolicy.keeps_map, hselect, hselect]
  apply DuplicatePolicy.keeps_of_isPrefix hkeep (h.filter _)
  rw [hc.mem_ids_iff] at hid
  obtain ⟨step, hstep, rfl⟩ := List.mem_map.mp hid
  rw [← hselect]
  have hmem : step ∈ definitions.filter fun other => other.id = step.id := by simp [hstep]
  exact List.ne_nil_of_mem (List.mem_map_of_mem hmem)

/-- The steps of a catalog stay in their places when more is defined. -/
theorem steps_isPrefix (hkeep : policy ≠ .lastWins) (hc : c.Holds policy definitions)
    (hd : d.Holds policy more)
    (h : definitions.map TestStep.unplaced <+: more.map TestStep.unplaced) :
    c.steps.map TestStep.unplaced <+: d.steps.map TestStep.unplaced := by
  obtain ⟨later, hlater⟩ := hc.ids_isPrefix hd h
  have hsame : (c.ids.filterMap c.get?).map TestStep.unplaced =
      (c.ids.filterMap d.get?).map TestStep.unplaced := by
    rw [List.map_filterMap, List.map_filterMap]
    apply List.filterMap_congr
    intro id hid
    exact hc.get?_of_isPrefix hkeep hd h hid
  rw [← c.filterMap_get?_ids, ← d.filterMap_get?_ids, ← hlater, List.filterMap_append,
    List.map_append, hsame]
  exact List.prefix_append _ _

end Holds

/-- A number is a place among the identifiers. -/
theorem number_eq (c : Catalog) (id : String) : c.number id = 1 + c.ids.findIdx (· == id) := by
  rw [number, ids, List.findIdx_map]
  rfl

/-- An identifier keeps its number when others come after it. -/
theorem number_of_isPrefix (h : c.ids <+: d.ids) {id : String} (hid : id ∈ c.ids) :
    c.number id = d.number id := by
  have hlt : c.ids.findIdx (· == id) < c.ids.length :=
    List.findIdx_lt_length_of_exists ⟨id, hid, beq_self_eq_true id⟩
  rw [number_eq, number_eq, h.findIdx_eq_of_findIdx_lt_length hlt]

end Catalog

end Conformance
