import TerseSchema.Schema.Document
import TerseSchema.Proofs.Schema.WellFormed
/-!
# Allowed values throughout a schema

A function applied to the allowed values of all nodes of a schema. Two schemas agree when they
are the same but for the labels of allowed values that lie inside of themselves: a copy of such a
list has the same items, and is not one of them.
-/

namespace TerseSchema

mutual

/-- A schema with a function applied to the allowed values of all its nodes. -/
def Schema.mapEnums (f : Value → Value) : Schema → Schema
  | ⟨type, description, enum, properties, items, required, additional, extras⟩ =>
    ⟨type, description, enum.map f,
      (match properties with
        | none => none
        | some ps => some (propertiesMapEnums f ps)),
      (match items with
        | none => none
        | some s => some (s.mapEnums f)),
      required,
      (match additional with
        | none => none
        | some a => some (a.mapEnums f)),
      extrasMapEnums f extras⟩
termination_by structural s => s

def propertiesMapEnums (f : Value → Value) : List (Text × Schema) → List (Text × Schema)
  | [] => []
  | (name, s) :: rest => (name, s.mapEnums f) :: propertiesMapEnums f rest
termination_by structural ps => ps

def extrasMapEnums (f : Value → Value) : List (Text × Value) → List (Text × Value)
  | [] => []
  | (name, v) :: rest => (name, v.mapEnums f) :: extrasMapEnums f rest
termination_by structural es => es

def Value.mapEnums (f : Value → Value) : Value → Value
  | .schema s => .schema (s.mapEnums f)
  | .list items => .list (itemsMapEnums f items)
  | .map entries => .map (entriesMapEnums f entries)
  | v => v
termination_by structural v => v

def itemsMapEnums (f : Value → Value) : List Value → List Value
  | [] => []
  | .schema s :: rest => .schema (s.mapEnums f) :: itemsMapEnums f rest
  | v :: rest => v :: itemsMapEnums f rest
termination_by structural vs => vs

def entriesMapEnums (f : Value → Value) : List (Value × Value) → List (Value × Value)
  | [] => []
  | (k, .schema s) :: rest => (k, .schema (s.mapEnums f)) :: entriesMapEnums f rest
  | (k, v) :: rest => (k, v) :: entriesMapEnums f rest
termination_by structural es => es

def Additional.mapEnums (f : Value → Value) : Additional → Additional
  | .forbidden => .forbidden
  | .schema s => .schema (s.mapEnums f)
termination_by structural a => a

end

/-! ## Values with schemas in them -/

namespace Value

def mapNode (g : Schema → Schema) : Value → Value
  | .schema s => .schema (g s)
  | v => v

def mapNodes (g : Schema → Schema) : Value → Value
  | .schema s => .schema (g s)
  | .list items => .list (items.map (mapNode g))
  | .map entries => .map (entries.map fun e => (e.1, e.2.mapNode g))
  | v => v

variable {g h : Schema → Schema} {v : Value}

theorem mapNode_congr (heq : ∀ t, v = .schema t → g t = h t) : v.mapNode g = v.mapNode h := by
  cases v <;> simp_all [mapNode]

theorem mapNodes_congr (heq : ∀ t, v.Holds t → g t = h t) : v.mapNodes g = v.mapNodes h := by
  cases v with
  | schema s => simp [mapNodes, heq s (.schema s)]
  | list items =>
      have hitems : ∀ w ∈ items, w.mapNode g = w.mapNode h := by
        rintro w hw
        exact mapNode_congr fun t ht => heq t (.item (ht ▸ hw))
      simpa [mapNodes] using hitems
  | map entries =>
      have hentries : ∀ e ∈ entries, e.2.mapNode g = e.2.mapNode h := by
        rintro ⟨k, w⟩ hw
        refine mapNode_congr fun t ht => heq t (@Value.Holds.entry entries k t ?_)
        exact (show w = .schema t from ht) ▸ hw
      simpa [mapNodes] using fun k w hw => hentries (k, w) hw
  | _ => rfl

theorem mapNodes_id (v : Value) : v.mapNodes id = v := by
  have hnode : mapNode id = id := by
    funext w
    cases w <;> rfl
  cases v <;> simp [mapNodes, hnode]

theorem mapNodes_mapNodes (v : Value) : (v.mapNodes g).mapNodes h = v.mapNodes (h ∘ g) := by
  have hnode : ∀ w : Value, (w.mapNode g).mapNode h = w.mapNode (h ∘ g) := by
    intro w
    cases w <;> rfl
  cases v <;> simp [mapNodes, hnode]

theorem mapNodes_of_isPlain (hv : v.isPlain = true) : v.mapNodes g = v := by
  rw [mapNodes_congr (h := id) fun t ht => absurd ht (not_holds_of_isPlain hv t), mapNodes_id]

theorem mapNodes_list_schemas (ss : List Schema) :
    (Value.list (ss.map .schema)).mapNodes g = .list ((ss.map g).map .schema) := by
  simp [mapNodes, mapNode]

theorem mapNodes_map_schemas (ss : List (Text × Schema)) :
    (Value.ofEntries (ss.map fun e => (e.1, .schema e.2))).mapNodes g =
      .ofEntries ((ss.map fun e => (e.1, g e.2)).map fun e => (e.1, .schema e.2)) := by
  simp [mapNodes, mapNode, ofEntries]

end Value

/-! ## Equations -/

variable {f : Value → Value}

theorem propertiesMapEnums_eq (properties : List (Text × Schema)) :
    propertiesMapEnums f properties = properties.map fun e => (e.1, e.2.mapEnums f) := by
  induction properties with
  | nil => rfl
  | cons e rest ih =>
      rw [List.map_cons, ← ih]
      rfl

theorem itemsMapEnums_eq (items : List Value) :
    itemsMapEnums f items = items.map (Value.mapNode (Schema.mapEnums f)) := by
  induction items with
  | nil => rfl
  | cons v rest ih =>
      rw [List.map_cons, ← ih]
      cases v <;> rfl

theorem entriesMapEnums_eq (entries : List (Value × Value)) :
    entriesMapEnums f entries =
      entries.map fun e => (e.1, e.2.mapNode (Schema.mapEnums f)) := by
  induction entries with
  | nil => rfl
  | cons e rest ih =>
      obtain ⟨k, v⟩ := e
      rw [List.map_cons, ← ih]
      cases v <;> rfl

theorem valueMapEnums_eq (v : Value) : v.mapEnums f = v.mapNodes (Schema.mapEnums f) := by
  cases v with
  | list items => rw [Value.mapNodes, ← itemsMapEnums_eq]; rfl
  | map entries => rw [Value.mapNodes, ← entriesMapEnums_eq]; rfl
  | _ => rfl

theorem extrasMapEnums_eq (extras : List (Text × Value)) :
    extrasMapEnums f extras = extras.map fun e => (e.1, e.2.mapNodes (Schema.mapEnums f)) := by
  induction extras with
  | nil => rfl
  | cons e rest ih =>
      rw [List.map_cons, ← ih, ← valueMapEnums_eq]
      rfl

/-! ## Children -/

def Additional.map (g : Schema → Schema) : Additional → Additional
  | .forbidden => .forbidden
  | .schema s => .schema (g s)

namespace Schema

def mapChildren (g : Schema → Schema) (s : Schema) : Schema :=
  { s with
    properties := s.properties.map fun ps => ps.map fun e => (e.1, g e.2)
    items := s.items.map g
    additional := s.additional.map (Additional.map g)
    extras := s.extras.map fun e => (e.1, e.2.mapNodes g) }

theorem mapChildren_congr {g h : Schema → Schema} {s : Schema}
    (heq : ∀ t, s.Child t → g t = h t) : s.mapChildren g = s.mapChildren h := by
  rw [mapChildren, mapChildren]
  congr 1
  · exact Option.map_congr fun ps hps => List.map_congr_left fun e he => by
      rw [heq e.2 (.property hps he)]
  · exact Option.map_congr fun t ht => heq t (.items ht)
  · refine Option.map_congr fun a ha => ?_
    cases a with
    | forbidden => rfl
    | schema t => rw [Additional.map, Additional.map, heq t (.additional ha)]
  · exact List.map_congr_left fun e he => by
      rw [Value.mapNodes_congr fun t ht => heq t (.extra he ht)]

theorem mapChildren_id (s : Schema) : s.mapChildren id = s := by
  have hadditional : Additional.map id = id := by
    funext a
    cases a <;> rfl
  cases s
  simp [mapChildren, hadditional, Value.mapNodes_id]

theorem mapChildren_mapChildren {g h : Schema → Schema} (s : Schema) :
    (s.mapChildren g).mapChildren h = s.mapChildren (h ∘ g) := by
  have hadditional : Additional.map h ∘ Additional.map g = Additional.map (h ∘ g) := by
    funext a
    cases a <;> rfl
  simp [mapChildren, hadditional, Function.comp_def, Value.mapNodes_mapNodes]

end Schema

/-! ## Laws -/

/-- A function on allowed values is applied to the schema itself and to its children. -/
theorem mapEnums_eq (s : Schema) :
    s.mapEnums f = { s.mapChildren (Schema.mapEnums f) with enum := s.enum.map f } := by
  obtain ⟨type, description, enum, properties, items, required, additional, extras⟩ := s
  simp only [Schema.mapChildren, ← extrasMapEnums_eq, ← propertiesMapEnums_eq]
  cases properties <;> cases items <;> rcases additional with _ | _ | _ <;> rfl

theorem mapEnums_congr {f g : Value → Value} {s : Schema}
    (heq : s.Everywhere fun t => ∀ v, t.enum = some v → f v = g v) :
    s.mapEnums f = s.mapEnums g := by
  induction s using Schema.byChildren with
  | step s ih =>
      have hchildren := Schema.mapChildren_congr fun t ht => ih t ht (heq.child ht)
      rw [mapEnums_eq, mapEnums_eq s, hchildren, Option.map_congr heq.here]

theorem mapEnums_id (s : Schema) : s.mapEnums id = s := by
  induction s using Schema.byChildren with
  | step s ih =>
      have hchildren : s.mapChildren (Schema.mapEnums id) = s :=
        (Schema.mapChildren_congr (h := id) ih).trans s.mapChildren_id
      rw [mapEnums_eq, hchildren, Option.map_id_apply]
      cases s
      rfl

theorem mapEnums_mapEnums {f g : Value → Value} (s : Schema) :
    (s.mapEnums f).mapEnums g = s.mapEnums (g ∘ f) := by
  induction s using Schema.byChildren with
  | step s ih =>
      have hchildren : (s.mapChildren (Schema.mapEnums f)).mapChildren (Schema.mapEnums g) =
          s.mapChildren (Schema.mapEnums (g ∘ f)) :=
        s.mapChildren_mapChildren.trans (Schema.mapChildren_congr ih)
      rw [mapEnums_eq (s.mapEnums f), mapEnums_eq s, mapEnums_eq s (f := g ∘ f), ← hchildren]
      simp [Schema.mapChildren]

/-! ## Agreement -/

/-- Two schemas are the same in every field at every depth, but for the labels of allowed values
that lie inside of themselves. -/
def Schema.Agree (s t : Schema) : Prop := s.mapEnums Value.untied = t.mapEnums Value.untied

def Schema.HasNoTuple (s : Schema) : Prop :=
  ∀ v items, s.enum = some v → v.untied ≠ .tuple items

def Schema.HasNoKnot (s : Schema) : Prop := ∀ v, s.enum = some v → v.untied = v

theorem untied_enumDocument {v : Value} (hv : ∀ items, v.untied ≠ .tuple items) :
    (enumDocument v).untied = v.untied := by
  rw [enumDocument]
  split
  · next items htuple => exact absurd htuple (hv items)
  · next items hlist => rw [hlist, Value.untied_list]
  · rfl

theorem enumDocument_eq_self {v : Value} (hv : ∀ items, v.untied ≠ .tuple items)
    (hknot : v.untied = v) : enumDocument v = v := by
  rw [enumDocument]
  split
  · next items htuple => exact absurd htuple (hv items)
  · next items hlist => rw [← hlist, hknot]
  · rfl

theorem agree_mapEnums_enumDocument {s : Schema} (hs : s.Everywhere Schema.HasNoTuple) :
    (s.mapEnums enumDocument).Agree s := by
  rw [Schema.Agree, mapEnums_mapEnums]
  refine mapEnums_congr fun t ht v hv => ?_
  exact untied_enumDocument fun items => hs t ht v items hv

theorem mapEnums_enumDocument_eq_self {s : Schema} (hs : s.Everywhere Schema.HasNoTuple)
    (hknot : s.Everywhere Schema.HasNoKnot) : s.mapEnums enumDocument = s := by
  rw [mapEnums_congr (g := id), mapEnums_id]
  intro t ht v hv
  exact enumDocument_eq_self (fun items => hs t ht v items hv) (hknot t ht v hv)

end TerseSchema
