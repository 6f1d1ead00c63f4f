import TerseSchema.Shorthand.Expansion
import TerseSchema.Proofs.Pairing
import TerseSchema.Proofs.Text.Split
import TerseSchema.Proofs.Value.Parts
/-!
# What expansion does

The expansion of a map, entry by entry: each entry has a member of its own, which depends on
nothing but that entry, and the object is built from the members in their order.
-/

namespace TerseSchema.Shorthand

/-! ## Entries -/

/-- An entry of a map has a member: its key can be written, its value expands, and the
key allows the outcome. -/
def EntryExpands (entry : Value × Value) (member : Member) : Prop :=
  entry.1.isWritable = true ∧ ∃ child, expand entry.2 = .ok child ∧
    (PropertyKey.decode entry.1.keyText).member child = .ok member

theorem expandEntries_cons_eq_ok_iff {entry : Value × Value} {rest : List (Value × Value)}
    {members : List Member} :
    expandEntries (entry :: rest) = .ok members ↔
      ∃ member after, EntryExpands entry member ∧ expandEntries rest = .ok after ∧
        members = member :: after := by
  obtain ⟨k, v⟩ := entry
  simp only [expandEntries, EntryExpands]
  cases hk : k.isWritable with
  | false => simp
  | true =>
      cases hv : expand v with
      | error failure => simp
      | ok child =>
          simp only [Bool.not_true, Bool.false_eq_true, if_false, true_and, Except.ok.injEq,
            exists_eq_left']
          cases hm : (PropertyKey.decode k.keyText).member child with
          | error cause => simp
          | ok member =>
              simp only [Except.ok.injEq]
              cases hrest : expandEntries rest with
              | error failure => simp [bind, Except.bind]
              | ok after => simp [bind, Except.bind, pure, Except.pure, eq_comm]

/-- A list of entries expands exactly when each entry does on its own. -/
theorem expandEntries_eq_ok_iff {entries : List (Value × Value)} {members : List Member} :
    expandEntries entries = .ok members ↔ List.Forall₂ EntryExpands entries members := by
  induction entries generalizing members with
  | nil => simp [expandEntries, eq_comm]
  | cons entry rest ih =>
      rw [expandEntries_cons_eq_ok_iff, List.forall₂_cons_left_iff]
      constructor
      · rintro ⟨member, after, hentry, hrest, rfl⟩
        exact ⟨member, after, hentry, ih.mp hrest, rfl⟩
      · rintro ⟨member, after, hentry, hrest, rfl⟩
        exact ⟨member, after, hentry, ih.mpr hrest, rfl⟩

theorem expand_map_eq_ok_iff {entries : List (Value × Value)} {s : Schema} :
    expand (.map entries) = .ok s ↔
      ∃ members, List.Forall₂ EntryExpands entries members ∧ s = objectOf members := by
  simp only [expand, ← expandEntries_eq_ok_iff]
  cases expandEntries entries with
  | error failure => simp [bind, Except.bind]
  | ok members => simp [bind, Except.bind, pure, Except.pure, eq_comm]

/-! ## Members -/

theorem ofName?_eq_none_iff (text : Text) :
    Modifier.ofName? text = none ↔
      text ≠ "object" ∧ text ≠ "array" ∧ text ≠ "enum" ∧ text ≠ "*" := by
  rw [Modifier.ofName?, List.find?_eq_none]
  simp [Modifier.all, Modifier.name, wildcard, eq_comm]

theorem name_of_ofName? {text : Text} {m : Modifier} (h : Modifier.ofName? text = some m) :
    m.name = text := by
  simpa using List.find?_some h

/-- The members that a key makes, one kind for each modifier. -/
theorem member_eq_ok_iff {key : PropertyKey} {child : Schema} {member : Member} :
    key.member child = .ok member ↔
      (key.modifier = none ∧ member = .property key.name key.isRequired child) ∨
      (key.modifier = some "object" ∧
        member = .property key.name key.isRequired (redescribe child key.description)) ∨
      (key.modifier = some "array" ∧
        member = .property key.name key.isRequired
          (redescribe { type := "array", items := some child } key.description)) ∨
      (key.modifier = some "enum" ∧ ∃ values, child.enum = some values ∧
        member = .property key.name key.isRequired
          (redescribe { child with enum := some (if key.optional then
            withNull values else values) }
            key.description)) ∨
      (key.modifier = some "*" ∧ member = .wildcard child) := by
  cases hmod : key.modifier with
  | none => simp [PropertyKey.member, hmod, @eq_comm _ _ member]
  | some text =>
      cases hname : Modifier.ofName? text with
      | none =>
          have hother := (ofName?_eq_none_iff text).mp hname
          simp [PropertyKey.member, hmod, hname, hother]
      | some m =>
          obtain rfl := name_of_ofName? hname
          simp only [PropertyKey.member, hmod, hname]
          cases m with
          | object => simp [Modifier.name, Text.ofString, @eq_comm _ _ member]
          | array => simp [Modifier.name, Text.ofString, @eq_comm _ _ member]
          | wildcard => simp [Modifier.name, wildcard, Text.ofString, @eq_comm _ _ member]
          | enum => cases child.enum <;> simp [Modifier.name, Text.ofString, @eq_comm _ _ member]

/-! ## Scalars and enumerations -/

theorem scalar_eq_ok {token : Text} {s : Schema} (h : scalar token = .ok s) :
    token.takeWhile (· ≠ .char ',') ∈ scalarNames ∧
      ∃ description, s = {
        type := if token.takeWhile (· ≠ .char ',') = "any" then []
          else token.takeWhile (· ≠ .char ',')
        description } := by
  have hsplit := Text.splitAtFirst_fst (CodePoint.char ',') token
  revert h
  simp only [scalar, ← hsplit]
  split
  · next hname =>
      intro h
      exact ⟨by simpa using hname, _, (Except.ok.inj h).symm⟩
  · simp

theorem enumeration_eq_ok_iff {items : List Value} {s : Schema} :
    enumeration items = .ok s ↔ items ≠ [] ∧ s = { enum := some (.list items) } := by
  cases items with
  | nil => simp [enumeration]
  | cons item rest => simp [enumeration, eq_comm]

theorem expand_leaf {v : Value} {s : Schema} (hleaf : v.isContainer = false)
    (h : expand v = .ok s) : ∃ token, v = .text token ∧ scalar token = .ok s := by
  cases v <;> simp [expand, Value.isContainer] at h hleaf ⊢
  exact h

/-- What an expansion comes from: a scalar, a list of allowed values, or the members of a map. -/
theorem expand_cases {v : Value} {s : Schema} (h : expand v = .ok s) :
    (∃ token, v.untied = .text token ∧ scalar token = .ok s) ∨
    (∃ items, v.items? = some items ∧ items ≠ [] ∧ s = { enum := some (.list items) }) ∨
    (∃ entries members, v.untied = .map entries ∧ List.Forall₂ EntryExpands entries members ∧
      s = objectOf members) := by
  induction v using Value.byParts with
  | list items _ | tuple items _ =>
      have hitems := enumeration_eq_ok_iff.mp (by simpa only [expand] using h)
      exact .inr (.inl ⟨items, rfl, hitems⟩)
  | map entries _ =>
      obtain ⟨members, hmembers, rfl⟩ := expand_map_eq_ok_iff.mp h
      exact .inr (.inr ⟨entries, members, rfl, hmembers, rfl⟩)
  | knot label container ih => exact ih (by simpa only [expand] using h)
  | leaf v hleaf =>
      obtain ⟨token, rfl, hscalar⟩ := expand_leaf hleaf h
      exact .inl ⟨token, rfl, hscalar⟩

/-! ## Objects -/

/-- What holds of the object without members, and stays when one more is added, holds of every
object. -/
theorem objectOf_induction {P : Schema → Prop} {members : List Member} (hempty : P emptyObject)
    (hadd : ∀ s, P s → ∀ member ∈ members, P (addMember s member)) : P (objectOf members) :=
  List.foldlRecOn members addMember hempty hadd

theorem type_objectOf (members : List Member) : (objectOf members).type = "object" := by
  refine objectOf_induction (P := fun s => s.type = "object") rfl ?_
  intro s hs member _
  cases member <;> exact hs

theorem enum_objectOf (members : List Member) : (objectOf members).enum = none := by
  refine objectOf_induction (P := fun s => s.enum = none) rfl ?_
  intro s hs member _
  cases member <;> exact hs

end TerseSchema.Shorthand
