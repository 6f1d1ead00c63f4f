import TerseSchema.Schema.Canonical
import TerseSchema.Proofs.Field.Recoding
import TerseSchema.Proofs.Json.Plain
import TerseSchema.Proofs.Schema.Reordering
import TerseSchema.Proofs.Text.Order
/-!
# Canonical values of reordered schemas

Sorted lists of required names do not tell in which order the names were written, and the
documents of reordered schemas are reorderings of each other. So schemas that are equal
up to the order of entries once they are sorted have canonical values that are equal up
to the order of entries.
-/

namespace TerseSchema

/-! ## Sorting -/

theorem perm_sortNames (names : List Text) : (sortNames names).Perm names :=
  List.mergeSort_perm names Text.isUpTo

theorem pairwise_sortNames (names : List Text) :
    (sortNames names).Pairwise (Text.isUpTo · · = true) := by
  refine List.pairwise_mergeSort Text.isUpTo_trans (fun s t => ?_) names
  rw [Bool.or_eq_true]
  exact Text.isUpTo_total s t

theorem sortNames_perm {names others : List Text} (h : names.Perm others) :
    sortNames names = sortNames others := by
  refine List.Perm.eq_of_pairwise (fun s t _ _ => Text.isUpTo_antisymm s t)
    (pairwise_sortNames names)
    (pairwise_sortNames others) ?_
  calc sortNames names
    _ |>.Perm names := perm_sortNames names
    _ |>.Perm others := h
    _ |>.Perm (sortNames others) := (perm_sortNames others).symm

theorem sortedProperties_eq (properties : Entries Schema) :
    sortedProperties properties = properties.map fun e => (e.1, e.2.sorted) := by
  induction properties with
  | nil => rfl
  | cons e rest ih => simp [sortedProperties, ih]

theorem sorted_eq (s : Schema) :
    s.sorted = { s with
      properties := s.properties.map sortedProperties
      items := s.items.map Schema.sorted
      required := sortNames s.required } := by
  obtain ⟨_, _, _, properties, items, _, _, _⟩ := s
  cases properties <;> cases items <;> rfl

/-! ## Schemas without extra fields -/

namespace Schema

variable {free : List Value → Prop} {s t : Schema}

abbrev Bare (s : Schema) : Prop := s.Everywhere fun t => t.extras = []

theorem Shuffle.extras_eq (h : s.Shuffle free t) (hextras : s.extras = []) : t.extras = [] := by
  cases h with
  | extras s hperm hfree =>
      obtain rfl : _ = [] := hextras
      exact hperm.nil_eq.symm
  | extra s h => simp at hextras
  | node s h hexchange => simp at hextras
  | _ => exact hextras

/-- The children of a shuffled schema are those of the schema, one of them shuffled perhaps. -/
theorem Shuffle.child {u : Schema} (h : s.Shuffle free t) (hextras : s.extras = [])
    (hu : t.Child u) : ∃ v, s.Child v ∧ (v = u ∨ v.Shuffle free u) := by
  cases h with
  | enum s h => exact ⟨u, hu.of_same_places rfl rfl rfl rfl, .inl rfl⟩
  | properties s hperm hfree =>
      cases hu with
      | property hproperties hmem =>
          cases hproperties
          exact ⟨u, .property rfl (hperm.mem_iff.mpr hmem), .inl rfl⟩
      | items hitems => exact ⟨u, .items hitems, .inl rfl⟩
      | additional hadditional => exact ⟨u, .additional hadditional, .inl rfl⟩
      | extra hextra hholds => exact ⟨u, .extra hextra hholds, .inl rfl⟩
  | @property s before after name x y h =>
      cases hu with
      | property hproperties hmem =>
          cases hproperties
          rcases List.mem_append.mp hmem with hbefore | hmem
          · exact ⟨u, .property rfl (List.mem_append_left _ hbefore), .inl rfl⟩
          rcases List.mem_cons.mp hmem with heq | hafter
          · cases heq
            exact ⟨x, .property rfl (List.mem_append_right before List.mem_cons_self), .inr h⟩
          · exact ⟨u, .property rfl
              (List.mem_append_right before (List.mem_cons_of_mem _ hafter)), .inl rfl⟩
      | items hitems => exact ⟨u, .items hitems, .inl rfl⟩
      | additional hadditional => exact ⟨u, .additional hadditional, .inl rfl⟩
      | extra hextra hholds => exact ⟨u, .extra hextra hholds, .inl rfl⟩
  | @items s x y h =>
      cases hu with
      | property hproperties hmem => exact ⟨u, .property hproperties hmem, .inl rfl⟩
      | items hitems =>
          cases hitems
          exact ⟨x, .items rfl, .inr h⟩
      | additional hadditional => exact ⟨u, .additional hadditional, .inl rfl⟩
      | extra hextra hholds => exact ⟨u, .extra hextra hholds, .inl rfl⟩
  | @additional s x y h =>
      cases hu with
      | property hproperties hmem => exact ⟨u, .property hproperties hmem, .inl rfl⟩
      | items hitems => exact ⟨u, .items hitems, .inl rfl⟩
      | additional hadditional =>
          cases hadditional
          exact ⟨x, .additional rfl, .inr h⟩
      | extra hextra hholds => exact ⟨u, .extra hextra hholds, .inl rfl⟩
  | extras s hperm hfree =>
      obtain rfl : _ = [] := hextras
      obtain rfl := hperm.nil_eq
      exact ⟨u, hu, .inl rfl⟩
  | extra s h => simp at hextras
  | node s h hexchange => simp at hextras

theorem Shuffle.bare (h : s.Shuffle free t) (hbare : s.Bare) : t.Bare := by
  induction s using byChildren generalizing t with
  | step s ih =>
      refine everywhere_iff.mpr ⟨h.extras_eq hbare.here, fun u hu => ?_⟩
      obtain ⟨v, hv, rfl | hvu⟩ := h.child hbare.here hu
      · exact hbare.child hv
      · exact ih v hv hvu (hbare.child hv)

theorem sorted_child (h : s.sorted.Child t) : ∃ u, s.Child u ∧ (t = u.sorted ∨ t = u) := by
  rw [sorted_eq] at h
  cases h with
  | property hproperties hmem =>
      obtain ⟨before, hbefore, rfl⟩ := Option.map_eq_some_iff.mp hproperties
      rw [sortedProperties_eq] at hmem
      obtain ⟨⟨name, u⟩, hu, heq⟩ := List.mem_map.mp hmem
      cases heq
      exact ⟨u, .property hbefore hu, .inl rfl⟩
  | items hitems =>
      obtain ⟨u, hu, rfl⟩ := Option.map_eq_some_iff.mp hitems
      exact ⟨u, .items hu, .inl rfl⟩
  | additional hadditional => exact ⟨t, .additional hadditional, .inr rfl⟩
  | extra hextra hholds => exact ⟨t, .extra hextra hholds, .inr rfl⟩

theorem bare_sorted (h : s.Bare) : s.sorted.Bare := by
  induction s using byChildren with
  | step s ih =>
      refine everywhere_iff.mpr ⟨by simpa [sorted_eq] using h.here, fun t ht => ?_⟩
      obtain ⟨u, hu, rfl | rfl⟩ := sorted_child ht
      · exact ih u hu (h.child hu)
      · exact h.child hu

/-! ## Documents -/

theorem enumDocument_shuffle {v w : Value} (h : v.Shuffle free w) :
    (enumDocument v).Shuffle free (enumDocument w) := by
  cases hitems : v.items? with
  | none =>
    rwa [enumDocument_of_no_items hitems, enumDocument_of_no_items (h.items?_eq_none hitems)]
  | some items =>
      obtain ⟨before, after, x, y, hxy, rfl, hothers⟩ := h.items hitems
      rw [enumDocument_of_items? hitems, enumDocument_of_items? hothers]
      exact .item hxy

/-- Fields are paired off when the documents in them are. -/
theorem forall₂_ownFields {R : Value → Value → Prop} (hrefl : ∀ v, R v v)
    (htype : s.type = t.type) (hdescription : s.description = t.description)
    (hempty : s.required.isEmpty = t.required.isEmpty)
    (hrequired : R (.list (s.required.map .text)) (.list (t.required.map .text)))
    (henum : Option.Rel R (s.enum.map enumDocument) (t.enum.map enumDocument))
    (hproperties : Option.Rel R (s.properties.map fun ps => .ofEntries (propertyDocuments ps))
      (t.properties.map fun ps => .ofEntries (propertyDocuments ps)))
    (hitems : Option.Rel R (s.items.map document) (t.items.map document))
    (hadditional : Option.Rel R (s.additional.map Additional.document)
      (t.additional.map Additional.document)) :
    List.Forall₂ (fun e f => e.1 = f.1 ∧ R e.2 f.2) s.ownFields t.ownFields := by
  have hsame : ∀ es : Entries Value, List.Forall₂ (fun e f => e.1 = f.1 ∧ R e.2 f.2) es es :=
    fun es => List.forall₂_same.mpr fun e _ => ⟨rfl, hrefl e.2⟩
  have hfield : ∀ {α : Type} (name : String) (f : α → Value) {x y : Option α},
      Option.Rel R (x.map f) (y.map f) →
      List.Forall₂ (fun e f => e.1 = f.1 ∧ R e.2 f.2)
        (x.map fun a => documentField name (f a)).toList
        (y.map fun a => documentField name (f a)).toList := by
    intro α name f x y h
    cases x <;> cases y <;> cases h
    · exact .nil
    · next hxy => exact .cons ⟨rfl, hxy⟩ .nil
  have hnames : List.Forall₂ (fun e f => e.1 = f.1 ∧ R e.2 f.2)
      (if t.required.isEmpty then []
        else [documentField "required" (.list (s.required.map .text))])
      (if t.required.isEmpty then []
        else [documentField "required" (.list (t.required.map .text))]) := by
    split
    · exact .nil
    · exact .cons ⟨rfl, hrequired⟩ .nil
  rw [ownFields, ownFields, htype, hdescription, hempty]
  exact List.rel_append (List.rel_append (List.rel_append (List.rel_append (List.rel_append
    (List.rel_append (hsame _) (hsame _)) (hfield _ _ henum)) (hfield _ _ hproperties))
    (hfield _ _ hitems)) hnames) (hfield _ _ hadditional)

theorem document_of_bare (hs : s.Bare) : s.document = .ofEntries s.ownFields := by
  rw [document_eq_putAll, hs.here]
  rfl

theorem document_of_places (hs : s.Bare) (ht : t.Bare) (htype : s.type = t.type)
    (hdescription : s.description = t.description) (hrequired : s.required = t.required)
    (henum : Option.Rel (Value.Reordered free) (s.enum.map enumDocument)
      (t.enum.map enumDocument))
    (hproperties : Option.Rel (Value.Reordered free)
      (s.properties.map fun ps => .ofEntries (propertyDocuments ps))
      (t.properties.map fun ps => .ofEntries (propertyDocuments ps)))
    (hitems : Option.Rel (Value.Reordered free) (s.items.map document) (t.items.map document))
    (hadditional : Option.Rel (Value.Reordered free) (s.additional.map Additional.document)
      (t.additional.map Additional.document)) : s.document.Reordered free t.document := by
  rw [document_of_bare hs, document_of_bare ht]
  exact Value.reordered_ofEntries (forall₂_ownFields (fun _ => .refl) htype hdescription
    (by rw [hrequired]) (hrequired ▸ .refl) henum hproperties hitems hadditional)

theorem document_of_shuffle (h : s.Shuffle free t) (hbare : s.Bare) :
    s.document.Reordered free t.document := by
  have hsame : ∀ x : Option Value, Option.Rel (Value.Reordered free) x x :=
    optionRel_refl fun _ => .refl
  have ht := h.bare hbare
  induction h with
  | enum s h =>
      refine document_of_places hbare ht rfl rfl rfl ?_ (hsame _) (hsame _) (hsame _)
      exact .some (.single (enumDocument_shuffle h))
  | properties s hperm hfree =>
      refine document_of_places hbare ht rfl rfl rfl (hsame _) ?_ (hsame _) (hsame _)
      simp only [propertyDocuments_eq, Option.map_some]
      refine .some (.single (.map ((hperm.map _).map _) ?_))
      simpa [Function.comp_def] using hfree
  | @property s before after name x y h ih =>
      refine document_of_places hbare ht rfl rfl rfl (hsame _) ?_ (hsame _) (hsame _)
      have hmem {u : Schema} : (name, u) ∈ before ++ (name, u) :: after :=
        List.mem_append_right before List.mem_cons_self
      have hx := ih (hbare.child (.property rfl hmem)) (ht.child (.property rfl hmem))
      have hothers (ps : Entries Schema) :
          List.Forall₂ (fun e f => e.1 = f.1 ∧ e.2.Reordered free f.2)
            (ps.map fun e => (e.1, e.2.document)) (ps.map fun e => (e.1, e.2.document)) :=
        List.forall₂_same.mpr fun _ _ => ⟨rfl, .refl⟩
      simp only [propertyDocuments_eq, Option.map_some, List.map_append, List.map_cons]
      exact .some (Value.reordered_ofEntries
        (List.rel_append (hothers before) (.cons ⟨rfl, hx⟩ (hothers after))))
  | items s h ih =>
      refine document_of_places hbare ht rfl rfl rfl (hsame _) (hsame _) ?_ (hsame _)
      exact .some (ih (hbare.child (.items rfl)) (ht.child (.items rfl)))
  | additional s h ih =>
      refine document_of_places hbare ht rfl rfl rfl (hsame _) (hsame _) (hsame _) ?_
      exact .some (ih (hbare.child (.additional rfl)) (ht.child (.additional rfl)))
  | extras s hperm hfree =>
      obtain rfl : _ = [] := hbare.here
      obtain rfl := hperm.nil_eq
      exact .refl
  | extra s h => simpa using hbare.here
  | node s h hexchange => simpa using hbare.here

theorem document_of_reordered (h : s.Reordered free t) (hbare : s.Bare) :
    s.document.Reordered free t.document := by
  induction h using Relation.ReflTransGen.head_induction_on with
  | refl => exact .refl
  | head hstep _ ih => exact (document_of_shuffle hstep hbare).trans (ih (hstep.bare hbare))

/-- Schemas that are equal up to the order of entries once they are sorted have canonical values
that are, or cannot be encoded, both of them. -/
theorem canonical_of_reordered (hbare : s.Bare)
    (h : s.sorted.Reordered (TextKeys Json.Apart) t.sorted) :
    (∃ v w, s.canonical = .ok v ∧ t.canonical = .ok w ∧ v.Reordered anyKeys w) ∨
      ∃ e f, s.canonical = .error ⟨.notEncodable e, []⟩ ∧
        t.canonical = .error ⟨.notEncodable f, []⟩ := by
  have hdocument := document_of_reordered h (bare_sorted hbare)
  rcases Json.plain_of_reordered hdocument with ⟨v, w, hv, hw, hvw⟩ | ⟨e, f, he, hf⟩
  · refine .inl ⟨v, w, ?_, ?_, hvw⟩
    · rw [canonical, plain, hv, Except.mapError]
    · rw [canonical, plain, hw, Except.mapError]
  · refine .inr ⟨e, f, ?_, ?_⟩
    · rw [canonical, plain, he, Except.mapError, Json.failure_of_plainWithin he]
    · rw [canonical, plain, hf, Except.mapError, Json.failure_of_plainWithin hf]

end Schema
end TerseSchema
