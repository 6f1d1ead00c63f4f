import TerseSchema.Proofs.Shorthand.Expansion
/-!
# The grammar of shorthand

Which values are shorthand, said without the schemas that they describe. Expansion succeeds on
exactly these values. What an entry's key allows of its value is judged by the value alone: only
lists ever describe allowed values.
-/

namespace TerseSchema.Shorthand

def IsNonEmptyList (v : Value) : Prop := ∃ items, v.items? = some items ∧ items ≠ []

/-- What the modifier of a key allows of the value under it. -/
def PropertyKey.Allows (key : PropertyKey) (v : Value) : Prop :=
  key.modifier = none ∨ key.modifier = some "array" ∨ key.modifier = some "object" ∨
    key.modifier = some "*" ∨ (key.modifier = some "enum" ∧ IsNonEmptyList v)

/-- The text of a key. A number with too many digits has none. -/
def keyText? (k : Value) : Option Text := if k.isWritable then some k.keyText else none

/-- The values that are shorthand. -/
inductive IsShorthand : Value → Prop where
  | scalar {token : Text} (hname : token.takeWhile (· ≠ .char ',') ∈ scalarNames) :
      IsShorthand (.text token)
  | list {items : List Value} (hitems : items ≠ []) : IsShorthand (.list items)
  | tuple {items : List Value} (hitems : items ≠ []) : IsShorthand (.tuple items)
  | map {entries : List (Value × Value)} (hvalues : ∀ e ∈ entries, IsShorthand e.2)
      (hkeys : ∀ e ∈ entries, ∃ text, keyText? e.1 = some text ∧
        (PropertyKey.decode text).Allows e.2) : IsShorthand (.map entries)
  | knot {label : Nat} {container : Value} (hinside : IsShorthand container) :
      IsShorthand (.knot label container)

/-! ## Keys -/

/-- A key has a member for a child unless its modifier is unknown, or asks for allowed values
that the child does not have. -/
theorem exists_member_iff (key : PropertyKey) (child : Schema) :
    (∃ member, key.member child = .ok member) ↔
      key.modifier = none ∨ key.modifier = some "array" ∨ key.modifier = some "object" ∨
        key.modifier = some "*" ∨ (key.modifier = some "enum" ∧ child.enum ≠ none) := by
  simp only [member_eq_ok_iff, Option.ne_none_iff_exists']
  constructor
  · rintro ⟨_, ⟨h, _⟩ | ⟨h, _⟩ | ⟨h, _⟩ | ⟨h, values, henum, _⟩ | ⟨h, _⟩⟩
    · exact .inl h
    · exact .inr (.inr (.inl h))
    · exact .inr (.inl h)
    · exact .inr (.inr (.inr (.inr ⟨h, values, henum⟩)))
    · exact .inr (.inr (.inr (.inl h)))
  · rintro (h | h | h | h | ⟨h, values, henum⟩)
    · exact ⟨_, .inl ⟨h, rfl⟩⟩
    · exact ⟨_, .inr (.inr (.inl ⟨h, rfl⟩))⟩
    · exact ⟨_, .inr (.inl ⟨h, rfl⟩)⟩
    · exact ⟨_, .inr (.inr (.inr (.inr ⟨h, rfl⟩)))⟩
    · exact ⟨_, .inr (.inr (.inr (.inl ⟨h, values, henum, rfl⟩)))⟩

/-- Only lists describe allowed values. -/
theorem enum_ne_none_iff_of_expand {v : Value} {s : Schema} (h : expand v = .ok s) :
    s.enum ≠ none ↔ IsNonEmptyList v := by
  rcases expand_cases h with ⟨token, hv, hscalar⟩ | ⟨items, hv, hitems, rfl⟩ |
    ⟨entries, members, hv, -, rfl⟩
  · obtain ⟨-, description, rfl⟩ := scalar_eq_ok hscalar
    simp [IsNonEmptyList, Value.items?, hv]
  · simp [IsNonEmptyList, hv, hitems]
  · simp [IsNonEmptyList, Value.items?, hv, enum_objectOf]

theorem exists_entryExpands_iff {entry : Value × Value} {child : Schema}
    (h : expand entry.2 = .ok child) :
    (∃ member, EntryExpands entry member) ↔
      ∃ text, keyText? entry.1 = some text ∧ (PropertyKey.decode text).Allows entry.2 := by
  cases hkey : entry.1.isWritable with
  | false => simp [EntryExpands, keyText?, hkey]
  | true =>
      have hmember := exists_member_iff (PropertyKey.decode entry.1.keyText) child
      rw [enum_ne_none_iff_of_expand h] at hmember
      simpa [EntryExpands, keyText?, hkey, h, PropertyKey.Allows] using hmember

/-! ## Values -/

theorem exists_expand_text_iff (token : Text) :
    (∃ s, expand (.text token) = .ok s) ↔ token.takeWhile (· ≠ .char ',') ∈ scalarNames := by
  rw [← Text.splitAtFirst_fst]
  by_cases hname : (Text.splitAtFirst (CodePoint.char ',') token).1 ∈ scalarNames
  · simp [expand, scalar, hname]
  · simp [expand, scalar, hname]

theorem exists_expand_map_iff {entries : List (Value × Value)} :
    (∃ s, expand (.map entries) = .ok s) ↔ ∀ e ∈ entries, (∃ child, expand e.2 = .ok child) ∧
      ∃ text, keyText? e.1 = some text ∧ (PropertyKey.decode text).Allows e.2 := by
  have hobject : (∃ s, expand (.map entries) = .ok s) ↔
      ∃ members, List.Forall₂ EntryExpands entries members := by
    simp only [expand_map_eq_ok_iff]
    constructor
    · rintro ⟨_, members, h, -⟩
      exact ⟨members, h⟩
    · rintro ⟨members, h⟩
      exact ⟨_, members, h, rfl⟩
  rw [hobject, exists_forall₂_iff]
  refine forall₂_congr fun e _ => ?_
  constructor
  · rintro ⟨member, hentry⟩
    obtain ⟨child, hchild, _⟩ := hentry.2
    exact ⟨⟨child, hchild⟩, (exists_entryExpands_iff hchild).mp ⟨member, hentry⟩⟩
  · rintro ⟨⟨child, hchild⟩, hkey⟩
    exact (exists_entryExpands_iff hchild).mpr hkey

theorem isShorthand_leaf {v : Value} (hleaf : v.isContainer = false) (h : IsShorthand v) :
    ∃ token, v = .text token ∧ token.takeWhile (· ≠ .char ',') ∈ scalarNames := by
  cases h with
  | scalar hname => exact ⟨_, rfl, hname⟩
  | _ => simp [Value.isContainer] at hleaf

/-- Expansion accepts exactly the grammar. -/
theorem exists_expand_iff_isShorthand (v : Value) : (∃ s, expand v = .ok s) ↔ IsShorthand v := by
  induction v using Value.byParts with
  | list items _ =>
      simp only [expand, enumeration_eq_ok_iff]
      constructor
      · rintro ⟨_, hitems, -⟩
        exact .list hitems
      · intro h
        cases h with
        | list hitems => exact ⟨_, hitems, rfl⟩
  | tuple items _ =>
      simp only [expand, enumeration_eq_ok_iff]
      constructor
      · rintro ⟨_, hitems, -⟩
        exact .tuple hitems
      · intro h
        cases h with
        | tuple hitems => exact ⟨_, hitems, rfl⟩
  | map entries ih =>
      rw [exists_expand_map_iff]
      constructor
      · intro h
        exact .map (fun e he => (ih e he).mp (h e he).1) (fun e he => (h e he).2)
      · intro h e he
        cases h with
        | map hvalues hkeys => exact ⟨(ih e he).mpr (hvalues e he), hkeys e he⟩
  | knot label container ih =>
      simp only [expand, ih]
      constructor
      · exact .knot
      · intro h
        cases h with
        | knot hinside => exact hinside
  | leaf v hleaf =>
      constructor
      · rintro ⟨s, hs⟩
        obtain ⟨token, rfl, _⟩ := expand_leaf hleaf hs
        exact .scalar ((exists_expand_text_iff token).mp ⟨s, hs⟩)
      · intro h
        obtain ⟨token, rfl, hname⟩ := isShorthand_leaf hleaf h
        exact (exists_expand_text_iff token).mpr hname

end TerseSchema.Shorthand
