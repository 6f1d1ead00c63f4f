import TerseSchema.MetaSchema.Uniqueness
import TerseSchema.Proofs.Sorting.Sorted
import TerseSchema.Proofs.Text.Order
import TerseSchema.Proofs.Value.Plain
/-!
# Lists of different texts

Texts can always be put in order, and where they are, equal ones are neighbours. So the
comparison of neighbours finds every text that is there twice.
-/

namespace TerseSchema.MetaSchema

open TerseSchema

@[simp] theorem jsonEqual_text (s t : Text) :
    jsonEqual (.text s) (.text t) = decide (s = t) := by
  simp [jsonEqual, scalarEqual, Value.alike_text]

theorem jsonEqual_text_of_container (s : Text) {v : Value} (hv : v.isContainer = true) :
    jsonEqual (.text s) v = false := by
  cases v <;> first | rfl | simp [Value.isContainer] at hv

def textOf : Value → Text
  | .text s => s
  | _ => []

theorem decides_texts :
    Sorting.Decides before? (fun v w => Text.isUpTo (textOf v) (textOf w))
      fun v => v = .text (textOf v) where
  total v w := Text.isUpTo_total _ _
  trans u v w := Text.isUpTo_trans _ _ _
  before v w hv hw := by
    rw [hv, hw]
    rfl

/-- In a list in order, equal texts are neighbours. -/
theorem neighboursEqual_texts {texts : List Text}
    (h : texts.Pairwise fun s t => Text.isUpTo s t = true) :
    neighboursEqual (texts.map .text) = true ↔ ¬texts.Nodup := by
  induction texts with
  | nil => simp [neighboursEqual]
  | cons s rest ih =>
      cases rest with
      | nil => simp [neighboursEqual]
      | cons t rest =>
          have hnear : s ∈ t :: rest ↔ s = t := by
            constructor
            · intro hmem
              rcases List.mem_cons.mp hmem with hst | hmem
              · exact hst
              · have hst := List.rel_of_pairwise_cons h List.mem_cons_self
                exact Text.isUpTo_antisymm s t hst (List.rel_of_pairwise_cons h.tail hmem)
            · rintro rfl
              exact List.mem_cons_self
          have htail := ih h.tail
          rw [List.map_cons] at htail
          rw [List.map_cons, List.map_cons, neighboursEqual, Bool.or_eq_true,
            htail, jsonEqual_text,
            decide_eq_true_eq, @List.nodup_cons _ s, hnear, not_and_or, not_not]

/-- Texts are told to be different when none is there twice. -/
theorem allDifferent_texts (texts : List Text) :
    allDifferent (texts.map .text) = true ↔ texts.Nodup := by
  have htexts : ∀ v ∈ texts.map Value.text, v = .text (textOf v) := by
    simp [textOf]
  obtain ⟨sorted, hsorted, hperm, hpairwise⟩ := Sorting.exists_sorted decides_texts htexts
  have hordered : ordered? (texts.map .text) = some sorted := by
    have htruth : (texts.map Value.text).any isTruthValue = false := by
      simp [isTruthValue]
    rw [ordered?, htruth, Bool.and_false]
    exact hsorted
  have hsame : (sorted.map textOf).map .text = sorted := by
    rw [List.map_map, List.map_congr_left (g := id), List.map_id]
    exact fun v hv => (htexts v (hperm.subset hv)).symm
  have hnodup : (sorted.map textOf).Nodup ↔ texts.Nodup := by
    have hmap := hperm.map textOf
    rw [List.map_map, show textOf ∘ Value.text = id from rfl, List.map_id] at hmap
    exact hmap.nodup_iff
  have hneighbours :=
    @neighboursEqual_texts (sorted.map textOf) (List.pairwise_map.mpr hpairwise)
  rw [hsame, hnodup] at hneighbours
  rw [allDifferent, hordered]
  simp only [Bool.not_eq_true', ← Bool.not_eq_true, hneighbours, not_not]

end TerseSchema.MetaSchema
