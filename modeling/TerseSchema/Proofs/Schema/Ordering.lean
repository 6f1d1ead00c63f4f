import TerseSchema.Proofs.Schema.Settled
/-!
# What sorting does to a schema

A node that is reached through properties and items is told by the steps that lead to it. Sorting
puts the required names of each of these nodes in order, and leaves all else of them as it was:
the nodes are found at the same steps, and what lies below additional properties and extra fields
is not looked into. So two schemas are the same once they are sorted exactly when they differ in
the order of these names alone.
-/

namespace TerseSchema

/-- A way down from a schema: into the property at a position, or into the items. -/
inductive Step where
  | property (position : Nat)
  | items
deriving DecidableEq, Repr

namespace Schema

variable {s t u : Schema}

def step? (s : Schema) : Step → Option Schema
  | .property position => s.properties.bind fun ps => (ps[position]?).map Prod.snd
  | .items => s.items

def at? (s : Schema) : List Step → Option Schema
  | [] => some s
  | step :: rest => (s.step? step).bind fun t => t.at? rest

theorem Member.child (h : s.Member t) : s.Child t := by
  cases h with
  | property hproperties hmem => exact .property hproperties hmem
  | items hitems => exact .items hitems

theorem member_iff_exists_step? : s.Member t ↔ ∃ step, s.step? step = some t := by
  constructor
  · rintro (⟨hproperties, hmem⟩ | hitems)
    · obtain ⟨position, hposition⟩ := List.mem_iff_getElem?.mp hmem
      exact ⟨.property position, by simp [step?, hproperties, hposition]⟩
    · exact ⟨.items, hitems⟩
  · rintro ⟨_ | _, hstep⟩
    · obtain ⟨ps, hproperties, hposition⟩ := Option.bind_eq_some_iff.mp hstep
      obtain ⟨e, he, rfl⟩ := Option.map_eq_some_iff.mp hposition
      exact .property hproperties (List.mem_of_getElem? he)
    · exact .items hstep

/-! ## Nodes of a sorted schema -/

theorem step?_sorted (s : Schema) (step : Step) :
    s.sorted.step? step = (s.step? step).map Schema.sorted := by
  rw [sorted_eq]
  cases step with
  | property position =>
      cases hproperties : s.properties with
      | none => simp [step?, hproperties]
      | some ps => simp [step?, hproperties, sortedProperties_eq, Function.comp_def]
  | items => rfl

/-- Sorting keeps every node at its place. -/
theorem at?_sorted (s : Schema) (path : List Step) :
    s.sorted.at? path = (s.at? path).map Schema.sorted := by
  induction path generalizing s with
  | nil => rfl
  | cons step rest ih =>
    simp only [at?, step?_sorted, Option.map_bind, Option.bind_map, Function.comp_def, ih]

/-- Two nodes differ in the order of their required names alone, other than in what their
properties and items are. -/
structure Alike (s t : Schema) : Prop where
  type : s.type = t.type
  description : s.description = t.description
  enum : s.enum = t.enum
  names : s.properties.map Entries.names = t.properties.map Entries.names
  items : s.items.isSome = t.items.isSome
  required : s.required.Perm t.required
  additional : s.additional = t.additional
  extras : s.extras = t.extras

theorem Alike.symm (h : s.Alike t) : t.Alike s :=
  ⟨h.type.symm, h.description.symm, h.enum.symm, h.names.symm, h.items.symm, h.required.symm,
    h.additional.symm, h.extras.symm⟩

theorem Alike.trans (hst : s.Alike t) (htu : t.Alike u) : s.Alike u :=
  ⟨hst.type.trans htu.type, hst.description.trans htu.description, hst.enum.trans htu.enum,
    hst.names.trans htu.names, hst.items.trans htu.items, hst.required.trans htu.required,
    hst.additional.trans htu.additional, hst.extras.trans htu.extras⟩

theorem alike_sorted (s : Schema) : s.Alike s.sorted := by
  rw [sorted_eq]
  refine ⟨rfl, rfl, rfl, ?_, Option.isSome_map.symm, (perm_sortNames s.required).symm, rfl, rfl⟩
  rw [Option.map_map]
  refine Option.map_congr fun ps _ => ?_
  rw [Function.comp_apply, sortedProperties_eq, Entries.names, Entries.names, List.map_map]
  rfl

def Ascends (s : Schema) : Prop :=
  s.required.Pairwise fun name other => name = other ∨ List.Lex Text.Precedes name other

theorem ascends_sorted (s : Schema) : s.sorted.Ascends := by
  rw [Ascends, sorted_eq]
  exact (pairwise_sortNames s.required).imp Text.isUpTo_iff_lex.mp

theorem sorted_sorted (s : Schema) : s.sorted.sorted = s.sorted := by
  induction s using byChildren with
  | step s ih =>
      have hnames : s.sorted.required.Pairwise (Text.isUpTo · · = true) := by
        rw [sorted_eq]
        exact pairwise_sortNames s.required
      refine sorted_eq_self hnames fun t ht => ?_
      obtain ⟨step, hstep⟩ := member_iff_exists_step?.mp ht
      obtain ⟨u, hu, rfl⟩ := Option.map_eq_some_iff.mp ((step?_sorted s step).symm.trans hstep)
      exact ih u (member_iff_exists_step?.mpr ⟨step, hu⟩).child

/-! ## Schemas that are sorted to one -/

/-- The nodes that the same steps lead to differ in the order of required names alone. -/
def AlikeThroughout (s t : Schema) : Prop := ∀ path, Option.Rel Alike (s.at? path) (t.at? path)

theorem AlikeThroughout.here (h : s.AlikeThroughout t) : s.Alike t := by
  cases h [] with
  | some h => exact h

theorem AlikeThroughout.step {step : Step} (h : s.AlikeThroughout t)
    (hs : s.step? step = some u) : ∃ v, t.step? step = some v ∧ u.AlikeThroughout v := by
  have hpath :
      ∀ path, Option.Rel Alike (u.at? path) ((t.step? step).bind fun v => v.at? path) := by
    intro path
    simpa [at?, hs] using h (step :: path)
  cases ht : t.step? step with
  | none => cases ht ▸ hpath []
  | some v => exact ⟨v, rfl, fun path => by simpa [ht] using hpath path⟩

/-- Properties with the same names are sorted to the same ones if those at each position are. -/
theorem sortedProperties_congr {ps qs : Entries Schema}
    (hnames : Entries.names ps = Entries.names qs)
    (hone : ∀ (i : Nat) (u : Schema), (ps[i]?).map Prod.snd = some u →
      ∃ v : Schema, (qs[i]?).map Prod.snd = some v ∧ u.sorted = v.sorted) :
    sortedProperties ps = sortedProperties qs := by
  induction ps generalizing qs with
  | nil => rw [List.map_eq_nil_iff.mp hnames.symm]
  | cons e rest ih =>
      cases qs with
      | nil => cases hnames
      | cons f others =>
          simp only [Entries.names, List.map_cons, List.cons.injEq] at hnames
          obtain ⟨v, hv, hsorted⟩ := hone 0 e.2 (by simp)
          obtain rfl : f.2 = v := by simpa using hv
          rw [sortedProperties, sortedProperties, hnames.1, hsorted,
            ih hnames.2 fun i u hu => hone (i + 1) u hu]

theorem sorted_eq_of_alikeThroughout (h : s.AlikeThroughout t) : s.sorted = t.sorted := by
  induction s using byChildren generalizing t with
  | step s ih =>
      -- Whatever one step leads to is a child, so the induction sorts it and
      -- its counterpart to one.
      have hstep : ∀ step u, s.step? step = some u →
          ∃ v, t.step? step = some v ∧ u.sorted = v.sorted := by
        intro step u hu
        obtain ⟨v, hv, hthroughout⟩ := h.step hu
        exact ⟨v, hv, ih u (member_iff_exists_step?.mpr ⟨step, hu⟩).child hthroughout⟩
      have hproperties :
          s.properties.map sortedProperties = t.properties.map sortedProperties := by
        have hnames := h.here.names
        have hposition := fun i => hstep (.property i)
        simp only [step?] at hposition
        cases hs : s.properties <;> cases ht : t.properties <;> rw [hs, ht] at hnames hposition
        case some.some ps qs =>
          exact congrArg some (sortedProperties_congr (Option.some.inj hnames) hposition)
        all_goals cases hnames
      have hitems : s.items.map Schema.sorted = t.items.map Schema.sorted := by
        have hsome := h.here.items
        have hitem := hstep .items
        simp only [step?] at hitem
        cases hs : s.items <;> cases ht : t.items <;> rw [hs, ht] at hsome hitem
        case some.some u v =>
          obtain ⟨_, hv, hsorted⟩ := hitem u rfl
          obtain rfl := Option.some.inj hv
          exact congrArg some hsorted
        all_goals cases hsome
      rw [sorted_eq s, sorted_eq t, hproperties, hitems,
        sortNames_perm h.here.required, h.here.type,
        h.here.description, h.here.enum, h.here.additional, h.here.extras]

theorem alike_of_sorted_eq (h : s.sorted = t.sorted) : s.Alike t :=
  (alike_sorted s).trans (h ▸ (alike_sorted t).symm)

theorem alikeThroughout_of_sorted_eq (h : s.sorted = t.sorted) : s.AlikeThroughout t := by
  intro path
  have hpath : (s.at? path).map Schema.sorted = (t.at? path).map Schema.sorted := by
    rw [← at?_sorted, ← at?_sorted, h]
  cases hs : s.at? path <;> cases ht :
    t.at? path <;> simp only [hs, ht, Option.map_some, Option.map_none,
      Option.some.injEq, reduceCtorEq] at hpath
  · exact .none
  · exact .some (alike_of_sorted_eq hpath)

/-- Sorting puts the required names of every node in order that is reached through properties and
items, and changes nothing else; a sorted schema is left as it is, and two schemas are sorted to
the same one exactly when they differ in the order of these names alone. -/
theorem sorted_orders_required_alone (s : Schema) :
    (∀ path, Option.Rel (fun before after => before.Alike after ∧ after.Ascends)
      (s.at? path) (s.sorted.at? path)) ∧
    s.sorted.sorted = s.sorted ∧
    ∀ t : Schema, s.AlikeThroughout t ↔ s.sorted = t.sorted := by
  refine ⟨fun path => ?_, sorted_sorted s, fun t =>
    ⟨sorted_eq_of_alikeThroughout, alikeThroughout_of_sorted_eq⟩⟩
  rw [at?_sorted]
  cases s.at? path with
  | none => exact .none
  | some u => exact .some ⟨alike_sorted u, ascends_sorted u⟩

end Schema
end TerseSchema
