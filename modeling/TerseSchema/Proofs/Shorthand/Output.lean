import TerseSchema.Proofs.Schema.WellFormed
import TerseSchema.Proofs.Shorthand.Expansion
import TerseSchema.Routing
/-!
# What shorthand expands to

Every node of an expanded schema has a type of JSON Schema or none, allowed values only as a
list, each required name once, and no extra fields.
-/

namespace TerseSchema.Shorthand

/-- What is true of a node of an expanded schema by itself. -/
structure IsOutput (s : Schema) : Prop where
  type : s.type = [] ∨ s.type ∈ schemaTypes
  enum : ∀ v, s.enum = some v → ∃ items, v = .list items
  properties : ∀ properties, s.properties = some properties → (Entries.names properties).Nodup
  required : s.required.Nodup
  extras : s.extras = []

theorem IsOutput.wellFormed {s : Schema} (h : IsOutput s) : s.WellFormed where
  enum := by
    intro hnull
    obtain ⟨items, hitems⟩ := h.enum _ hnull
    cases hitems
  properties := h.properties
  names := by simp [h.extras]
  notOwn := by simp [h.extras]
  extras := by simp [h.extras]

/-! ## Nodes -/

def Member.child : Member → Schema
  | .property _ _ child => child
  | .wildcard child => child

theorem child_redescribe {s t : Schema} {description : Option Text}
    (h : (redescribe s description).Child t) : s.Child t := by
  refine h.of_same_places ?_ ?_ ?_ ?_ <;> cases description <;> rfl

theorem child_member {key : PropertyKey} {child t : Schema} {member : Member}
    (hmember : key.member child = .ok member) (h : member.child.Child t) :
    t = child ∨ child.Child t := by
  rcases member_eq_ok_iff.mp hmember with ⟨-, rfl⟩ | ⟨-, rfl⟩ | ⟨-, rfl⟩ |
    ⟨-, values, -, rfl⟩ | ⟨-, rfl⟩
  · exact .inr h
  · exact .inr (child_redescribe h)
  · cases child_redescribe h with
    | items hitems => exact .inl (Option.some.inj hitems).symm
    | _ => simp_all
  · exact .inr ((child_redescribe h).of_same_places rfl rfl rfl rfl)
  · exact .inr h

theorem child_addMember {s t : Schema} {member : Member} (h : (addMember s member).Child t) :
    s.Child t ∨ t = member.child := by
  cases member with
  | wildcard child =>
      cases h with
      | property h hmem => exact .inl (.property h hmem)
      | items h => exact .inl (.items h)
      | additional h => cases h; exact .inr rfl
      | extra h hholds => exact .inl (.extra h hholds)
  | property name required child =>
      cases h with
      | property h hmem =>
          obtain ⟨before, hbefore, rfl⟩ := Option.map_eq_some_iff.mp h
          rcases Entries.mem_put hmem with heq | hold
          · exact .inr (Prod.mk.inj heq).2
          · exact .inl (.property hbefore hold)
      | items h => exact .inl (.items h)
      | additional h => exact .inl (.additional h)
      | extra h hholds => exact .inl (.extra h hholds)

theorem child_objectOf {members : List Member} {t : Schema} (h : (objectOf members).Child t) :
    ∃ member ∈ members, t = member.child := by
  have hinvariant : ∀ u, (objectOf members).Child u → ∃ member ∈ members, u = member.child := by
    apply objectOf_induction (P := fun s => ∀ u, s.Child u →
      ∃ member ∈ members, u = member.child)
    · intro u hu
      cases hu with
      | property hproperties hmem =>
          obtain rfl := Option.some.inj hproperties
          cases hmem
      | items hitems => cases hitems
      | additional hadditional => cases hadditional
      | extra hextra _ => cases hextra
    · intro s hs member hmem u hu
      rcases child_addMember hu with hold | rfl
      · exact hs u hold
      · exact ⟨member, hmem, rfl⟩
  exact hinvariant t h

/-- The nodes of an expansion are expansions of parts of the value, or brought by members that
are made of such parts: what holds of both holds of every node. -/
theorem everywhere_of_parts_expand {P : Schema → Prop} {v : Value} {s : Schema}
    (hroot : ∀ w t, v.Reaches w → expand w = .ok t → P t)
    (hmember : ∀ entry member, v.Reaches entry.2 → EntryExpands entry member → P member.child)
    (h : expand v = .ok s) : s.Everywhere P := by
  induction v using Value.byContents generalizing s with
  | step v _ ih =>
      refine Schema.everywhere_iff.mpr ⟨hroot v s .refl h, fun t hchild => ?_⟩
      rcases expand_cases h with ⟨token, -, hscalar⟩ | ⟨items, -, -, rfl⟩ |
        ⟨entries, members, hv, hmembers, rfl⟩
      · obtain ⟨-, description, rfl⟩ := scalar_eq_ok hscalar
        exact absurd hchild (Schema.not_child rfl rfl rfl (List.forall_mem_nil _) t)
      · exact absurd hchild (Schema.not_child rfl rfl rfl (List.forall_mem_nil _) t)
      · obtain ⟨member, hmem, rfl⟩ := child_objectOf hchild
        obtain ⟨entry, hentry, hexpands⟩ := exists_left_of_forall₂ hmembers hmem
        obtain ⟨-, child, hchildOf, hmemberOf⟩ := id hexpands
        have hreaches := Value.reaches_value hv hentry
        have hinside := ih entries hv entry hentry (fun w t hw => hroot w t (hreaches.trans hw))
          (fun e m he => hmember e m (hreaches.trans he)) hchildOf
        refine Schema.everywhere_iff.mpr ⟨hmember entry member hreaches hexpands, fun u hu => ?_⟩
        rcases child_member hmemberOf hu with rfl | hu
        · exact hinside
        · exact hinside.child hu

theorem everywhere_of_expand {P : Schema → Prop} (hroot : ∀ v s, expand v = .ok s → P s)
    (hmember : ∀ entry member, EntryExpands entry member → P member.child) {v : Value}
    {s : Schema} (h : expand v = .ok s) : s.Everywhere P :=
  everywhere_of_parts_expand (fun w t _ => hroot w t)
    (fun entry member _ => hmember entry member) h

/-! ## Output -/

theorem isOutput_redescribe {s : Schema} (h : IsOutput s) (description : Option Text) :
    IsOutput (redescribe s description) := by
  cases description with
  | none => exact h
  | some description => exact { h with }

theorem isOutput_scalar {token : Text} {s : Schema} (h : scalar token = .ok s) : IsOutput s := by
  obtain ⟨hname, description, rfl⟩ := scalar_eq_ok h
  refine ⟨?_, by simp, by simp, by simp, rfl⟩
  have htable : ∀ name ∈ scalarNames, name = "any" ∨ name ∈ schemaTypes := by decide
  rcases htable _ hname with hany | htype
  · exact .inl (if_pos hany)
  · split
    · exact .inl rfl
    · exact .inr htype

theorem isOutput_enumeration (items : List Value) : IsOutput { enum := some (.list items) } := by
  refine ⟨.inl rfl, ?_, by simp, by simp, rfl⟩
  rintro v ⟨⟩
  exact ⟨items, rfl⟩

theorem isOutput_emptyObject : IsOutput emptyObject := by
  refine ⟨.inr (by decide), by simp [emptyObject], ?_, by decide, rfl⟩
  rintro _ ⟨⟩
  simp

theorem isOutput_addMember {s : Schema} (h : IsOutput s) (member : Member) :
    IsOutput (addMember s member) := by
  cases member with
  | wildcard child => exact { h with }
  | property name required child =>
      have hproperties : ∀ properties,
          s.properties.map (fun ps => Entries.put name child ps) = some properties →
          (Entries.names properties).Nodup := by
        intro properties hmap
        obtain ⟨before, hbefore, rfl⟩ := Option.map_eq_some_iff.mp hmap
        exact Entries.nodup_names_put name child (h.properties before hbefore)
      have hrequired :
          (if required && !s.required.contains name then s.required ++ [name]
            else s.required).Nodup := by
        split
        · next hnew =>
            have hfresh : name ∉ s.required := by
              simp only [Bool.and_eq_true, Bool.not_eq_true', List.contains_eq_mem,
                decide_eq_false_iff_not] at hnew
              exact hnew.2
            exact List.nodup_append.mpr ⟨h.required, List.nodup_singleton name,
              fun a ha b hb heq =>
              hfresh (List.mem_singleton.mp hb ▸ heq ▸ ha)⟩
        · exact h.required
      exact { h with properties := hproperties, required := hrequired }

theorem isOutput_expand {v : Value} {s : Schema} (h : expand v = .ok s) : IsOutput s := by
  rcases expand_cases h with ⟨token, -, hscalar⟩ | ⟨items, -, -, rfl⟩ | ⟨_, members, -, -, rfl⟩
  · exact isOutput_scalar hscalar
  · exact isOutput_enumeration items
  · exact objectOf_induction isOutput_emptyObject fun s hs member _ =>
      isOutput_addMember hs member

theorem isOutput_member {key : PropertyKey} {child : Schema} {member : Member}
    (h : IsOutput child) (hmember : key.member child = .ok member) : IsOutput member.child := by
  rcases member_eq_ok_iff.mp hmember with ⟨-, rfl⟩ | ⟨-, rfl⟩ | ⟨-, rfl⟩ |
    ⟨-, values, hvalues, rfl⟩ | ⟨-, rfl⟩
  · exact h
  · exact isOutput_redescribe h _
  · have htype : ("array" : Text) ∈ schemaTypes := by decide
    exact isOutput_redescribe ⟨.inr htype, by simp, by simp, by simp, rfl⟩ _
  · obtain ⟨items, rfl⟩ := h.enum values hvalues
    apply isOutput_redescribe
    refine ⟨h.type, ?_, h.properties, h.required, h.extras⟩
    rintro v ⟨⟩
    cases key.optional
    · exact ⟨items, rfl⟩
    · exact ⟨items ++ [.null], rfl⟩
  · exact h

/-- Expansion yields output throughout. -/
theorem everywhere_isOutput_expand {v : Value} {s : Schema} (h : expand v = .ok s) :
    s.Everywhere IsOutput := by
  refine everywhere_of_expand (fun _ _ => isOutput_expand) ?_ h
  rintro entry member ⟨-, child, hchild, hmember⟩
  exact isOutput_member (isOutput_expand hchild) hmember

/-- Only a list and the shorthand for anything expand to a schema without a type. -/
theorem items_or_any_of_expand {v : Value} {s : Schema} (h : expand v = .ok s)
    (htype : s.type = []) :
    (∃ items, v.items? = some items) ∨
      ∃ token, v.untied = .text token ∧ token.takeWhile (· ≠ .char ',') = "any" := by
  rcases expand_cases h with ⟨token, hv, hscalar⟩ | ⟨items, hv, -, -⟩ | ⟨_, members, -, -, rfl⟩
  · obtain ⟨hname, description, rfl⟩ := scalar_eq_ok hscalar
    refine .inr ⟨token, hv, ?_⟩
    by_contra hany
    simp only [if_neg hany] at htype
    rw [htype] at hname
    exact absurd hname (by decide)
  · exact .inl ⟨items, hv⟩
  · rw [type_objectOf] at htype
    exact absurd htype (by decide)

end TerseSchema.Shorthand
