import TerseSchema.Proofs.Value.Reordering
/-!
# Reordered schemas

Schemas that differ in nothing but the order of entries: of properties, of extra fields,
and of the maps in allowed values and in extra fields. A difference deep inside of a
schema is one of the whole.
-/

namespace TerseSchema

/-- One schema for another in the value of an extra field, where it is that value, an item or
the value of an entry. -/
inductive Value.Exchange (s t : Schema) : Value → Value → Prop where
  | schema : Exchange s t (.schema s) (.schema t)
  | item {before after : List Value} :
      Exchange s t (.list (before ++ .schema s :: after)) (.list (before ++ .schema t :: after))
  | entry {before after : List (Value × Value)} {k : Value} :
      Exchange s t (.map (before ++ (k, .schema s) :: after))
        (.map (before ++ (k, .schema t) :: after))

/-- The entries of one map of a schema, at any depth, in another order,
if its keys are `free`. -/
inductive Schema.Shuffle (free : List Value → Prop) : Schema → Schema → Prop where
  | enum (s : Schema) {v w : Value} (h : v.Shuffle free w) :
      Shuffle free { s with enum := some v } { s with enum := some w }
  | properties (s : Schema) {ps qs : Entries Schema} (hperm : ps.Perm qs)
      (hfree : free (ps.map fun e => .text e.1)) :
      Shuffle free { s with properties := some ps } { s with properties := some qs }
  | property (s : Schema) {before after : Entries Schema} {name : Text} {t u : Schema}
      (h : Shuffle free t u) :
      Shuffle free { s with properties := some (before ++ (name, t) :: after) }
        { s with properties := some (before ++ (name, u) :: after) }
  | items (s : Schema) {t u : Schema} (h : Shuffle free t u) :
      Shuffle free { s with items := some t } { s with items := some u }
  | additional (s : Schema) {t u : Schema} (h : Shuffle free t u) :
      Shuffle free { s with additional := some (.schema t) }
        { s with additional := some (.schema u) }
  | extras (s : Schema) {es fs : Entries Value} (hperm : es.Perm fs)
      (hfree : free (es.map fun e => .text e.1)) :
      Shuffle free { s with extras := es } { s with extras := fs }
  | extra (s : Schema) {before after : Entries Value} {name : Text} {v w : Value}
      (h : v.Shuffle free w) :
      Shuffle free { s with extras := before ++ (name, v) :: after }
        { s with extras := before ++ (name, w) :: after }
  | node (s : Schema) {before after : Entries Value} {name : Text} {v w : Value} {t u : Schema}
      (h : Shuffle free t u) (hexchange : Value.Exchange t u v w) :
      Shuffle free { s with extras := before ++ (name, v) :: after }
        { s with extras := before ++ (name, w) :: after }

abbrev Schema.Reordered (free : List Value → Prop) : Schema → Schema → Prop :=
  Relation.ReflTransGen (Schema.Shuffle free)

namespace Schema

variable {free : List Value → Prop} {s t u : Schema}

open Relation

/-! ## Contexts -/

theorem reordered_enum (s : Schema) {v w : Value} (h : v.Reordered free w) :
    Reordered free { s with enum := some v } { s with enum := some w } :=
  ReflTransGen.lift (fun v => { s with enum := some v }) (fun _ _ => Shuffle.enum s) _ _ h

theorem reordered_items (s : Schema) (h : t.Reordered free u) :
    Reordered free { s with items := some t } { s with items := some u } :=
  ReflTransGen.lift (fun t => { s with items := some t }) (fun _ _ => Shuffle.items s) _ _ h

theorem reordered_additional (s : Schema) (h : t.Reordered free u) :
    Reordered free { s with additional := some (.schema t) }
      { s with additional := some (.schema u) } :=
  ReflTransGen.lift (fun t => { s with additional := some (.schema t) })
    (fun _ _ => Shuffle.additional s) _ _ h

theorem reordered_properties (s : Schema) {ps qs : Entries Schema}
    (h : List.Forall₂ (fun e f => e.1 = f.1 ∧ e.2.Reordered free f.2) ps qs) :
    Reordered free { s with properties := some ps } { s with properties := some qs } := by
  refine reflTransGen_of_forall₂ (fun ps => { s with properties := some ps }) ?_ h
  rintro before after ⟨name, t⟩ ⟨_, u⟩ ⟨rfl, htu⟩
  exact ReflTransGen.lift (fun t => { s with properties := some (before ++ (name, t) :: after) })
    (fun _ _ => Shuffle.property s) _ _ htu

/-! ## Extra fields -/

/-- The values of extra fields that differ in the order of entries alone, whatever they
are an extra field of. -/
def ExtraReordered (free : List Value → Prop) (v w : Value) : Prop :=
  ∀ (s : Schema) (before after : Entries Value) (name : Text),
    Reordered free { s with extras := before ++ (name, v) :: after }
      { s with extras := before ++ (name, w) :: after }

theorem extraReordered_of_reordered {v w : Value} (h : v.Reordered free w) :
    ExtraReordered free v w := fun s before after name =>
  ReflTransGen.lift (fun v => { s with extras := before ++ (name, v) :: after })
    (fun _ _ => Shuffle.extra s) _ _ h

theorem ExtraReordered.trans {v w x : Value} (h : ExtraReordered free v w)
    (hnext : ExtraReordered free w x) : ExtraReordered free v x :=
  fun s before after name => (h s before after name).trans (hnext s before after name)

/-- A place for a schema in the value of an extra field. -/
theorem extraReordered_exchange {f : Schema → Value} (hf : ∀ t u, Value.Exchange t u (f t) (f u))
    (h : t.Reordered free u) : ExtraReordered free (f t) (f u) := fun s before after name =>
  ReflTransGen.lift (fun t => { s with extras := before ++ (name, f t) :: after })
    (fun t u h => Shuffle.node s h (hf t u)) _ _ h

theorem extraReordered_list {ss ts : List Schema} (h : List.Forall₂ (Reordered free) ss ts) :
    ExtraReordered free (.list (ss.map .schema)) (.list (ts.map .schema)) := by
  intro s before after name
  refine reflTransGen_of_forall₂
    (fun ss => { s with extras := before ++ (name, Value.list (ss.map .schema)) :: after }) ?_ h
  intro first last t u htu
  simp only [List.map_append, List.map_cons]
  exact extraReordered_exchange (f := fun t => .list (first.map .schema ++ .schema t ::
    last.map .schema)) (fun _ _ => .item) htu s before after name

theorem extraReordered_map {ss ts : Entries Schema}
    (h : List.Forall₂ (fun e f => e.1 = f.1 ∧ e.2.Reordered free f.2) ss ts) :
    ExtraReordered free (.ofEntries (ss.map fun e => (e.1, .schema e.2)))
      (.ofEntries (ts.map fun e => (e.1, .schema e.2))) := by
  intro s before after name
  let entries : Entries Schema → List (Value × Value) :=
    List.map fun e => (.text e.1, .schema e.2)
  have hentries : ∀ ss : Entries Schema,
      Value.ofEntries (ss.map fun e => (e.1, .schema e.2)) = .map (entries ss) := by
    simp [Value.ofEntries, entries, Function.comp_def]
  rw [hentries, hentries]
  refine reflTransGen_of_forall₂
    (fun ss => { s with extras := before ++ (name, Value.map (entries ss)) :: after }) ?_ h
  rintro first last ⟨key, t⟩ ⟨_, u⟩ ⟨rfl, htu⟩
  simp only [entries, List.map_append, List.map_cons]
  exact extraReordered_exchange (f := fun t => .map (entries first ++ (.text key, .schema t) ::
    entries last)) (fun _ _ => .entry) htu s before after name

theorem reordered_extras (s : Schema) {es fs : Entries Value}
    (h : List.Forall₂ (fun e f => e.1 = f.1 ∧ ExtraReordered free e.2 f.2) es fs) :
    Reordered free { s with extras := es } { s with extras := fs } := by
  refine reflTransGen_of_forall₂ (fun es => { s with extras := es }) ?_ h
  rintro before after ⟨name, v⟩ ⟨_, w⟩ ⟨rfl, hvw⟩
  exact hvw s before after name

/-- Schemas whose places differ in the order of entries alone do so themselves. -/
theorem reordered_of_places (htype : s.type = t.type)
    (hdescription : s.description = t.description)
    (hrequired : s.required = t.required)
    (henum : ∀ u : Schema, Reordered free { u with enum := s.enum } { u with enum := t.enum })
    (hproperties : ∀ u : Schema,
      Reordered free { u with properties := s.properties } { u with properties := t.properties })
    (hitems : ∀ u : Schema, Reordered free { u with items := s.items }
      { u with items := t.items })
    (hadditional : ∀ u : Schema,
      Reordered free { u with additional := s.additional } { u with additional := t.additional })
    (hextras : ∀ u : Schema,
      Reordered free { u with extras := s.extras } { u with extras := t.extras }) :
    s.Reordered free t := by
  obtain ⟨type, description, enum, properties, items, required, additional, extras⟩ := s
  obtain ⟨_, _, enum', properties', items', _, additional', extras'⟩ := t
  obtain rfl := htype
  obtain rfl := hdescription
  obtain rfl := hrequired
  -- One place after the other is changed.
  exact (henum ⟨type, description, none, properties, items, required, additional, extras⟩).trans
    ((hproperties ⟨type, description, enum', none, items, required, additional, extras⟩).trans
      ((hitems ⟨type, description, enum', properties', none, required, additional, extras⟩).trans
        ((hadditional ⟨type, description, enum', properties', items', required,
          none, extras⟩).trans
          (hextras ⟨type, description, enum', properties', items', required, additional', []⟩))))

/-! ## Edits -/

def edit (f g : Text → Text) (e : Value → Value) (s : Schema) : Schema :=
  { s with type := f s.type, description := g s.description, enum := s.enum.map e }

/-- Shuffled schemas that are edited in the same way are shuffled still. -/
theorem shuffle_edit {f g : Text → Text} {e : Value → Value}
    (he : ∀ v w, v.Shuffle free w → (e v).Shuffle free (e w)) (h : s.Shuffle free t) :
    (s.edit f g e).Shuffle free (t.edit f g e) := by
  cases h with
  | enum s h => exact .enum (s.edit f g e) (he _ _ h)
  | properties s hperm hfree => exact .properties (s.edit f g e) hperm hfree
  | property s h => exact .property (s.edit f g e) h
  | items s h => exact .items (s.edit f g e) h
  | additional s h => exact .additional (s.edit f g e) h
  | extras s hperm hfree => exact .extras (s.edit f g e) hperm hfree
  | extra s h => exact .extra (s.edit f g e) h
  | node s h hexchange => exact .node (s.edit f g e) h hexchange

theorem reordered_edit {f g : Text → Text} {e : Value → Value}
    (he : ∀ v w, v.Shuffle free w → (e v).Shuffle free (e w)) (h : s.Reordered free t) :
    (s.edit f g e).Reordered free (t.edit f g e) :=
  ReflTransGen.lift (edit f g e) (fun _ _ => shuffle_edit he) _ _ h

end Schema
end TerseSchema
