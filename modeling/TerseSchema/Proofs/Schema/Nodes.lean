import TerseSchema.Value.Basic
import Mathlib.Logic.Relation
import Mathlib.Tactic.Common
/-!
# Nodes of a schema

The nodes of a schema are the schema itself and all that is reached from it through properties,
items, additional properties and the extra fields that hold schemas. What is to hold of a whole
tree is said of its nodes.
-/

namespace TerseSchema

/-- The schemas that the value of an extra field is made of: itself, its items or its entries. -/
inductive Value.Holds : Value → Schema → Prop where
  | schema (t : Schema) : Holds (.schema t) t
  | item {items : List Value} {t : Schema} (hmem : .schema t ∈ items) : Holds (.list items) t
  | entry {entries : List (Value × Value)} {key : Value} {t : Schema}
      (hmem : (key, .schema t) ∈ entries) : Holds (.map entries) t

@[simp] theorem Value.holds_schema_iff {s t : Schema} : (Value.schema s).Holds t ↔ t = s := by
  constructor
  · rintro ⟨⟩
    rfl
  · rintro rfl
    exact .schema t

@[simp] theorem Value.holds_list_map_schema_iff {ss : List Schema} {t : Schema} :
    (Value.list (ss.map .schema)).Holds t ↔ t ∈ ss := by
  constructor
  · intro h
    cases h with
    | item hmem => simpa using hmem
  · intro h
    exact .item (List.mem_map_of_mem h)

@[simp] theorem Value.holds_ofEntries_map_schema_iff {ss : List (Text × Schema)} {t : Schema} :
    (Value.ofEntries (ss.map fun e => (e.1, .schema e.2))).Holds t ↔ ∃ name, (name, t) ∈ ss := by
  constructor
  · intro h
    cases h with
    | entry hmem =>
        simp only [List.map_map, List.mem_map, Function.comp_apply, Prod.mk.injEq,
          Value.schema.injEq] at hmem
        obtain ⟨⟨name, u⟩, he, -, rfl⟩ := hmem
        exact ⟨name, he⟩
  · rintro ⟨name, h⟩
    refine @Value.Holds.entry _ (.text name) t ?_
    rw [List.map_map]
    exact List.mem_map_of_mem
      (f := fun e : Text × Schema => (Value.text e.1, Value.schema e.2)) h

namespace Schema

inductive Child (s : Schema) : Schema → Prop where
  | property {properties : List (Text × Schema)} {name : Text} {t : Schema}
      (hproperties : s.properties = some properties) (hmem : (name, t) ∈ properties) : Child s t
  | items {t : Schema} (hitems : s.items = some t) : Child s t
  | additional {t : Schema} (hadditional : s.additional = some (.schema t)) : Child s t
  | extra {name : Text} {v : Value} {t : Schema} (hextra : (name, v) ∈ s.extras)
      (hholds : v.Holds t) : Child s t

/-- Children are told by four places alone. -/
theorem Child.of_same_places {s t u : Schema} (h : s.Child t)
    (hproperties : s.properties = u.properties) (hitems : s.items = u.items)
    (hadditional : s.additional = u.additional) (hextras : s.extras = u.extras) : u.Child t := by
  cases h with
  | property h hmem => exact .property (hproperties ▸ h) hmem
  | items h => exact .items (hitems ▸ h)
  | additional h => exact .additional (hadditional ▸ h)
  | extra h hholds => exact .extra (hextras ▸ h) hholds

theorem not_child {s : Schema} (hproperties : s.properties = none) (hitems : s.items = none)
    (hadditional : s.additional = none) (hextras : ∀ e ∈ s.extras, ∀ t, ¬e.2.Holds t)
    (t : Schema) : ¬s.Child t := by
  intro h
  cases h with
  | property h _ => cases hproperties.symm.trans h
  | items h => cases hitems.symm.trans h
  | additional h => cases hadditional.symm.trans h
  | extra hmem hholds => exact hextras _ hmem t hholds

/-- The schemas of a tree: its root, and what its nodes hold. -/
abbrev Node : Schema → Schema → Prop := Relation.ReflTransGen Child

theorem eq_of_node {s t : Schema} (h : s.Node t) (hleaf : ∀ u, ¬s.Child u) : t = s := by
  rcases Relation.ReflTransGen.cases_head h with rfl | ⟨u, hchild, -⟩
  · rfl
  · exact absurd hchild (hleaf u)

def Everywhere (P : Schema → Prop) (s : Schema) : Prop := ∀ t, s.Node t → P t

/-! ## Induction -/

private theorem sizeOf_snd_lt {α β : Type} [SizeOf α] [SizeOf β] {e : α × β} {l : List (α × β)}
    (h : e ∈ l) : sizeOf e.2 < sizeOf l := by
  have hmem := List.sizeOf_lt_of_mem h
  obtain ⟨a, b⟩ := e
  simp only [Prod.mk.sizeOf_spec] at hmem ⊢
  omega

private theorem sizeOf_holds_lt {v : Value} {t : Schema} (h : v.Holds t) :
    sizeOf t < sizeOf v := by
  cases h with
  | schema => simp only [Value.schema.sizeOf_spec]; omega
  | item hmem =>
      have hitem := List.sizeOf_lt_of_mem hmem
      simp only [Value.list.sizeOf_spec, Value.schema.sizeOf_spec] at hitem ⊢
      omega
  | entry hmem =>
      have hentry := sizeOf_snd_lt hmem
      simp only [Value.map.sizeOf_spec, Value.schema.sizeOf_spec] at hentry ⊢
      omega

theorem sizeOf_child_lt {s t : Schema} (h : s.Child t) : sizeOf t < sizeOf s := by
  cases h with
  | property hproperties hmem =>
      have hlt := sizeOf_snd_lt hmem
      obtain ⟨_, _, _, properties, _, _, _, _⟩ := s
      subst hproperties
      simp only [Schema.mk.sizeOf_spec, Option.some.sizeOf_spec] at hlt ⊢
      omega
  | items hitems =>
      obtain ⟨_, _, _, _, items, _, _, _⟩ := s
      subst hitems
      simp only [Schema.mk.sizeOf_spec, Option.some.sizeOf_spec]
      omega
  | additional hadditional =>
      obtain ⟨_, _, _, _, _, _, additional, _⟩ := s
      subst hadditional
      simp only [Schema.mk.sizeOf_spec, Option.some.sizeOf_spec, Additional.schema.sizeOf_spec]
      omega
  | extra hextra hholds =>
      have hlt := sizeOf_snd_lt hextra
      have hinside := sizeOf_holds_lt hholds
      obtain ⟨_, _, _, _, _, _, _, extras⟩ := s
      simp only [Schema.mk.sizeOf_spec] at hlt ⊢
      omega

/-- What holds of a schema as soon as it holds of its children, holds of every schema. -/
@[elab_as_elim]
theorem byChildren {P : Schema → Prop} (step : ∀ s, (∀ t, s.Child t → P t) → P s) (s : Schema) :
    P s :=
  step s fun t _ => byChildren step t
termination_by sizeOf s
decreasing_by exact sizeOf_child_lt ‹_›

/-! ## Everywhere -/

theorem Everywhere.here {P : Schema → Prop} {s : Schema} (h : s.Everywhere P) : P s :=
  h s .refl

theorem Everywhere.child {P : Schema → Prop} {s t : Schema} (h : s.Everywhere P)
    (hchild : s.Child t) : t.Everywhere P :=
  fun u hu => h u (.head hchild hu)

theorem Everywhere.imp {P Q : Schema → Prop} {s : Schema} (h : s.Everywhere P)
    (himp : ∀ t, P t → Q t) : s.Everywhere Q :=
  fun t ht => himp t (h t ht)

theorem everywhere_iff {P : Schema → Prop} {s : Schema} :
    s.Everywhere P ↔ P s ∧ ∀ t, s.Child t → t.Everywhere P := by
  constructor
  · exact fun h => ⟨h.here, fun t => h.child⟩
  · rintro ⟨hhere, hchildren⟩ t hnode
    rcases Relation.ReflTransGen.cases_head hnode with rfl | ⟨u, hchild, hu⟩
    · exact hhere
    · exact hchildren u hchild t hu

end Schema
end TerseSchema
