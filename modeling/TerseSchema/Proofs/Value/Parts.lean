import TerseSchema.Value.Equality
import Mathlib.Logic.Relation
import Mathlib.Tactic.Common
/-!
# Parts of values

The induction that every reading of a document follows: a container is dealt with once its parts
are, and a knot once the container inside of it is. What a reading can come across is what is
reached from part to part.
-/

namespace TerseSchema.Value

def isContainer : Value → Bool
  | .list _ => true
  | .tuple _ => true
  | .map _ => true
  | .knot _ _ => true
  | _ => false

@[simp] theorem untied_list (items : List Value) : (Value.list items).untied = .list items := rfl

@[simp] theorem untied_tuple (items : List Value) :
    (Value.tuple items).untied = .tuple items := rfl

@[simp] theorem untied_map (entries : List (Value × Value)) :
    (Value.map entries).untied = .map entries := rfl

@[simp] theorem untied_knot (label : Nat) (container : Value) :
    (Value.knot label container).untied = container.untied := rfl

theorem untied_of_not_container {v : Value} (h : v.isContainer = false) : v.untied = v := by
  cases v <;> first | rfl | simp [isContainer] at h

def items? (v : Value) : Option (List Value) :=
  match v.untied with
  | .list items => some items
  | .tuple items => some items
  | _ => none

@[simp] theorem items?_list (items : List Value) : (Value.list items).items? = some items := rfl

@[simp] theorem items?_tuple (items : List Value) :
    (Value.tuple items).items? = some items := rfl

@[simp] theorem items?_map (entries : List (Value × Value)) :
    (Value.map entries).items? = none := rfl

@[simp] theorem items?_knot (label : Nat) (container : Value) :
    (Value.knot label container).items? = container.items? := rfl

private theorem sizeOf_value_lt {entries : List (Value × Value)} {e : Value × Value}
    (h : e ∈ entries) : sizeOf e.2 < sizeOf (Value.map entries) := by
  have hmem := List.sizeOf_lt_of_mem h
  obtain ⟨k, v⟩ := e
  simp only [Prod.mk.sizeOf_spec, Value.map.sizeOf_spec] at hmem ⊢
  omega

/-- Induction over the parts of a value. The keys of a map are no parts. -/
@[elab_as_elim]
theorem byParts {P : Value → Prop}
    (list : ∀ items, (∀ v ∈ items, P v) → P (.list items))
    (tuple : ∀ items, (∀ v ∈ items, P v) → P (.tuple items))
    (map : ∀ entries : List (Value × Value), (∀ e ∈ entries, P e.2) → P (.map entries))
    (knot : ∀ label container, P container → P (.knot label container))
    (leaf : ∀ v : Value, v.isContainer = false → P v) : ∀ v, P v
  | .list items => list items fun v _ => byParts list tuple map knot leaf v
  | .tuple items => tuple items fun v _ => byParts list tuple map knot leaf v
  | .map entries => map entries fun e _ => byParts list tuple map knot leaf e.2
  | .knot label container => knot label container (byParts list tuple map knot leaf container)
  | .null => leaf _ rfl
  | .bool _ => leaf _ rfl
  | .int _ => leaf _ rfl
  | .float _ => leaf _ rfl
  | .text _ => leaf _ rfl
  | .set _ => leaf _ rfl
  | .bytes _ => leaf _ rfl
  | .date _ => leaf _ rfl
  | .moment _ => leaf _ rfl
  | .forbidden => leaf _ rfl
  | .schema _ => leaf _ rfl
  | .cut _ _ => leaf _ rfl
termination_by v => sizeOf v
decreasing_by
  · have := List.sizeOf_lt_of_mem ‹_›
    simp only [Value.list.sizeOf_spec]
    omega
  · have := List.sizeOf_lt_of_mem ‹_›
    simp only [Value.tuple.sizeOf_spec]
    omega
  · exact sizeOf_value_lt ‹_›
  · simp only [Value.knot.sizeOf_spec]
    omega

theorem untied_ne_knot (v : Value) (label : Nat) (container : Value) :
    v.untied ≠ .knot label container := by
  induction v using byParts with
  | knot _ inner ih => exact ih
  | leaf v hleaf =>
      rw [untied_of_not_container hleaf]
      rintro rfl
      simp [isContainer] at hleaf
  | _ => simp

/-- Induction over what lies in a value, whether or not it is a knot: the items of a list or
tuple, and the values of a map. -/
@[elab_as_elim]
theorem byContents {P : Value → Prop}
    (step : ∀ v : Value, (∀ items, v.items? = some items → ∀ w ∈ items, P w) →
      (∀ entries, v.untied = .map entries → ∀ e ∈ entries, P e.2) → P v) (v : Value) : P v := by
  -- A knot has the contents of its container, so these are carried along with the claim itself.
  have hcontents : P v ∧ (∀ items, v.items? = some items → ∀ w ∈ items, P w) ∧
      (∀ entries, v.untied = .map entries → ∀ e ∈ entries, P e.2) := by
    induction v using byParts with
    | list items ih =>
        have hitems : ∀ others, (list items).items? = some others → ∀ w ∈ others, P w := by
          rintro _ ⟨⟩ w hw
          exact (ih w hw).1
        exact ⟨step _ hitems (by simp), hitems, by simp⟩
    | tuple items ih =>
        have hitems : ∀ others, (tuple items).items? = some others → ∀ w ∈ others, P w := by
          rintro _ ⟨⟩ w hw
          exact (ih w hw).1
        exact ⟨step _ hitems (by simp), hitems, by simp⟩
    | map entries ih =>
        have hentries : ∀ others, (map entries).untied = .map others → ∀ e ∈ others, P e.2 := by
          rintro _ ⟨⟩ e he
          exact (ih e he).1
        exact ⟨step _ (by simp) hentries, by simp, hentries⟩
    | knot label container ih => exact ⟨step _ ih.2.1 ih.2.2, ih.2⟩
    | leaf v hleaf =>
        have hitems : ∀ items, v.items? = some items → ∀ w ∈ items, P w := by
          intro items hitems
          cases v <;> simp [items?, untied, isContainer] at hitems hleaf
        have hentries : ∀ entries, v.untied = .map entries → ∀ e ∈ entries, P e.2 := by
          intro entries hentries
          rw [untied_of_not_container hleaf] at hentries
          simp [hentries, isContainer] at hleaf
        exact ⟨step v hitems hentries, hitems, hentries⟩
  exact hcontents.1

/-! ## Reaching -/

/-- The values that a value is directly made of. The keys of a map are no parts. -/
inductive Part : Value → Value → Prop where
  | item {items : List Value} {v : Value} (hmem : v ∈ items) : Part (.list items) v
  | component {items : List Value} {v : Value} (hmem : v ∈ items) : Part (.tuple items) v
  | entry {entries : List (Value × Value)} {k v : Value} (hmem : (k, v) ∈ entries) :
      Part (.map entries) v
  | inside (label : Nat) (container : Value) : Part (.knot label container) container

/-- What a value is made of at any depth, the value itself included. -/
abbrev Reaches : Value → Value → Prop := Relation.ReflTransGen Part

theorem reaches_iff {v u : Value} : v.Reaches u ↔ u = v ∨ ∃ w, v.Part w ∧ w.Reaches u := by
  rw [Reaches, Relation.ReflTransGen.cases_head_iff, @eq_comm _ u]

@[simp] theorem part_list_iff {items : List Value} {w : Value} :
    (Value.list items).Part w ↔ w ∈ items := by
  constructor
  · intro h
    cases h with
    | item hmem => exact hmem
  · exact .item

@[simp] theorem part_tuple_iff {items : List Value} {w : Value} :
    (Value.tuple items).Part w ↔ w ∈ items := by
  constructor
  · intro h
    cases h with
    | component hmem => exact hmem
  · exact .component

@[simp] theorem part_map_iff {entries : List (Value × Value)} {w : Value} :
    (Value.map entries).Part w ↔ ∃ e ∈ entries, e.2 = w := by
  constructor
  · intro h
    cases h with
    | entry hmem => exact ⟨_, hmem, rfl⟩
  · rintro ⟨e, hmem, rfl⟩
    exact .entry hmem

@[simp] theorem part_knot_iff {label : Nat} {container w : Value} :
    (Value.knot label container).Part w ↔ w = container := by
  constructor
  · intro h
    cases h with
    | inside => rfl
  · rintro rfl
    exact .inside label w

theorem reaches_list_iff {items : List Value} {u : Value} :
    (Value.list items).Reaches u ↔ u = .list items ∨ ∃ v ∈ items, v.Reaches u := by
  simp only [@reaches_iff (.list items), part_list_iff]

theorem reaches_tuple_iff {items : List Value} {u : Value} :
    (Value.tuple items).Reaches u ↔ u = .tuple items ∨ ∃ v ∈ items, v.Reaches u := by
  simp only [@reaches_iff (.tuple items), part_tuple_iff]

theorem reaches_map_iff {entries : List (Value × Value)} {u : Value} :
    (Value.map entries).Reaches u ↔ u = .map entries ∨ ∃ e ∈ entries, e.2.Reaches u := by
  simp only [@reaches_iff (.map entries), part_map_iff, exists_exists_and_eq_and]

theorem reaches_knot_iff {label : Nat} {container u : Value} :
    (Value.knot label container).Reaches u ↔
      u = .knot label container ∨ container.Reaches u := by
  simp only [@reaches_iff (.knot label container), part_knot_iff, exists_eq_left]

theorem reaches_leaf_iff {v u : Value} (hleaf : v.isContainer = false) :
    v.Reaches u ↔ u = v := by
  rw [reaches_iff]
  refine or_iff_left ?_
  rintro ⟨w, hpart, -⟩
  cases hpart <;> simp [isContainer] at hleaf

theorem reaches_untied (v : Value) : v.Reaches v.untied := by
  induction v using byParts with
  | knot label container ih => exact .head (.inside label container) ih
  | leaf v hleaf => rw [untied_of_not_container hleaf]
  | _ => exact .refl

theorem reaches_item {v w : Value} {items : List Value} (h : v.items? = some items)
    (hw : w ∈ items) : v.Reaches w := by
  refine (reaches_untied v).tail ?_
  rw [items?] at h
  split at h
  · next hlist =>
      cases h
      rw [hlist]
      exact .item hw
  · next htuple =>
      cases h
      rw [htuple]
      exact .component hw
  · cases h

theorem reaches_value {v : Value} {entries : List (Value × Value)} {e : Value × Value}
    (h : v.untied = .map entries) (he : e ∈ entries) : v.Reaches e.2 := by
  refine (reaches_untied v).tail ?_
  rw [h]
  exact .entry he

end TerseSchema.Value
