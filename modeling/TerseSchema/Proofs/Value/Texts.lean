import TerseSchema.Value.Basic
import Mathlib.Tactic.Common
/-!
# Texts of values

The texts that stand in a value, at whatever depth: those that are values
and those that are keys.
-/

namespace TerseSchema

mutual

def Value.texts : Value → List Text
  | .text s => [s]
  | .list items => itemTexts items
  | .tuple items => itemTexts items
  | .map entries => entryTexts entries
  | .knot _ container => container.texts
  | _ => []
termination_by structural v => v

def itemTexts : List Value → List Text
  | [] => []
  | v :: rest => v.texts ++ itemTexts rest
termination_by structural vs => vs

def entryTexts : List (Value × Value) → List Text
  | [] => []
  | (.text s, v) :: rest => s :: (v.texts ++ entryTexts rest)
  | (_, v) :: rest => v.texts ++ entryTexts rest
termination_by structural es => es

end

theorem mem_itemTexts {items : List Value} {s : Text} :
    s ∈ itemTexts items ↔ ∃ v ∈ items, s ∈ v.texts := by
  induction items with
  | nil => simp [itemTexts]
  | cons v rest ih => simp [itemTexts, ih]

theorem mem_entryTexts {entries : List (Value × Value)} {s : Text} :
    s ∈ entryTexts entries ↔ ∃ e ∈ entries, e.1 = .text s ∨ s ∈ e.2.texts := by
  induction entries with
  | nil => simp [entryTexts]
  | cons e rest ih =>
      obtain ⟨k, v⟩ := e
      cases k <;> simp [entryTexts, ih, eq_comm, or_assoc]

namespace Value

variable {P : Text → Prop}

theorem forall_texts_list {items : List Value} :
    (∀ s ∈ (Value.list items).texts, P s) ↔ ∀ v ∈ items, ∀ s ∈ v.texts, P s := by
  simp only [texts, mem_itemTexts]
  exact ⟨fun h v hv s hs => h s ⟨v, hv, hs⟩, fun h s ⟨v, hv, hs⟩ => h v hv s hs⟩

theorem forall_texts_tuple {items : List Value} :
    (∀ s ∈ (Value.tuple items).texts, P s) ↔ ∀ v ∈ items, ∀ s ∈ v.texts, P s :=
  forall_texts_list

theorem forall_texts_map {entries : List (Value × Value)} :
    (∀ s ∈ (Value.map entries).texts, P s) ↔
      ∀ e ∈ entries, (∀ s, e.1 = .text s → P s) ∧ ∀ s ∈ e.2.texts, P s := by
  simp only [texts, mem_entryTexts]
  exact ⟨fun h e he => ⟨fun s hs => h s ⟨e, he, .inl hs⟩, fun s hs => h s ⟨e, he, .inr hs⟩⟩,
    fun h s ⟨e, he, hs⟩ => hs.elim ((h e he).1 s) ((h e he).2 s)⟩

end Value
end TerseSchema
