import TerseSchema.Proofs.Field.Mapping
import TerseSchema.Proofs.Field.Shape
import TerseSchema.Proofs.Pairing
import TerseSchema.Proofs.Schema.Nodes
import TerseSchema.Proofs.Value.Plain
/-!
# Well-formed schemas

What is true of every node that a reading can build: names are there once, allowed values are
never null, and an extra field is a known one, holds what its shape tells, and is none of the
fields that a schema has places of its own for.
-/

namespace TerseSchema

def ownFieldNames : List Text :=
  ["type", "description", "enum", "properties", "items", "required", "additionalProperties"]

/-- What an extra field of a shape is kept as. -/
inductive Shape.Keeps : Shape → Value → Prop where
  | any {v : Value} (hplain : v.isPlain = true) : Keeps .any v
  | string (s : Text) : Keeps .string (.text s)
  | count (n : Nat) : Keeps .count (.int n)
  | bool (b : Bool) : Keeps .bool (.bool b)
  | schema (s : Schema) : Keeps .schema (.schema s)
  | schemas (ss : List Schema) : Keeps .schemas (.list (ss.map .schema))
  | schemaMap {ss : Entries Schema} (hnames : ss.names.Nodup) :
      Keeps .schemaMap (.ofEntries (ss.map fun e => (e.1, .schema e.2)))

/-- What is true of a node by itself. -/
structure Schema.WellFormed (s : Schema) : Prop where
  enum : s.enum ≠ some .null
  properties : ∀ properties, s.properties = some properties → (Entries.names properties).Nodup
  names : (Entries.names s.extras).Nodup
  notOwn : ∀ name ∈ Entries.names s.extras, name ∉ ownFieldNames
  extras : ∀ name v, (name, v) ∈ s.extras →
    ∃ shape, Shape.ofField? name = some shape ∧ shape.Keeps v

theorem wellFormed_empty : ({} : Schema).WellFormed where
  enum := by simp
  properties := by simp
  names := by simp
  notOwn := by simp
  extras := by simp

theorem everywhere_wellFormed_empty : ({} : Schema).Everywhere Schema.WellFormed := by
  refine Schema.everywhere_iff.mpr ⟨wellFormed_empty, fun t hchild => ?_⟩
  exact absurd hchild (Schema.not_child rfl rfl rfl (List.forall_mem_nil _) t)

/-! ## Assignment -/

def Content.nested : Content → List Schema
  | .schema s => [s]
  | .schemas ss => ss
  | .schemaMap ss => ss.map Prod.snd
  | .additional (.schema s) => [s]
  | _ => []

/-- A content that makes a schema no less well-formed. -/
structure Content.Fits (c : Content) : Prop where
  plain : ∀ v, c = .any v → v.isPlain = true
  names : ∀ ss, c = .schemaMap ss → (Entries.names ss).Nodup
  nested : ∀ t ∈ c.nested, t.Everywhere Schema.WellFormed

theorem assign_of_not_own {field : Text} (s : Schema) (c : Content)
    (hown : field ∉ ownFieldNames) :
    s.assign field c = { s with extras := Entries.put field c.extra s.extras } := by
  simp only [ownFieldNames, List.mem_cons, List.not_mem_nil, or_false, not_or] at hown
  cases c <;> simp [Schema.assign, hown]

/-- What a schema becomes where a content is assigned to a field: one of the seven places is
filled, or an extra field is put. -/
inductive Assigned (s : Schema) : Text → Content → Schema → Prop
  | type (text : Text) : Assigned s "type" (.string text) { s with type := text }
  | description (text : Text) :
      Assigned s "description" (.string text) { s with description := text }
  | enum (v : Value) : Assigned s "enum" (.any v) { s with enum := v.nonNull }
  | properties (ss : Entries Schema) :
      Assigned s "properties" (.schemaMap ss) { s with properties := some ss }
  | items (t : Schema) : Assigned s "items" (.schema t) { s with items := some t }
  | required (names : List Text) :
      Assigned s "required" (.strings names) { s with required := names }
  | additional (a : Additional) :
      Assigned s "additionalProperties" (.additional a) { s with additional := some a }
  | extra {field : Text} (c : Content) (hown : field ∉ ownFieldNames) :
      Assigned s field c { s with extras := Entries.put field c.extra s.extras }

theorem assigned_assign {field : Text} {c : Content} (s : Schema)
    (hshape : Shape.ofField? field = some c.shape) : Assigned s field c (s.assign field c) := by
  have hcontent : ∀ {name : Text} {shape : Shape}, Shape.ofField? name = some shape →
      field = name → c.shape = shape := by
    rintro name shape hname rfl
    exact Option.some.inj (hshape.symm.trans hname)
  by_cases hown : field ∈ ownFieldNames
  · simp only [ownFieldNames, List.mem_cons, List.not_mem_nil, or_false] at hown
    rcases hown with h | h | h | h | h | h | h
    · have hc : c.shape = .string := hcontent ofField?_type h
      cases c <;> cases hc
      exact h ▸ .type _
    · have hc : c.shape = .string := hcontent ofField?_description h
      cases c <;> cases hc
      exact h ▸ .description _
    · have hc : c.shape = .any := hcontent ofField?_enum h
      cases c <;> cases hc
      exact h ▸ .enum _
    · have hc : c.shape = .schemaMap := hcontent ofField?_properties h
      cases c <;> cases hc
      exact h ▸ .properties _
    · have hc : c.shape = .schema := hcontent ofField?_items h
      cases c <;> cases hc
      exact h ▸ .items _
    · have hc : c.shape = .strings := hcontent ofField?_required h
      cases c <;> cases hc
      exact h ▸ .required _
    · have hc : c.shape = .schemaOrBool := hcontent ofField?_additionalProperties h
      cases c <;> cases hc
      exact h ▸ .additional _
  · rw [assign_of_not_own s c hown]
    exact .extra c hown

/-- The fields of some shapes all have places of their own. -/
theorem shape_of_not_own :
    ∀ e ∈ fieldShapes, e.1 ∉ ownFieldNames → e.2 ≠ .strings ∧ e.2 ≠ .schemaOrBool := by
  decide

theorem keeps_extra {field : Text} {c : Content} (hshape : Shape.ofField? field = some c.shape)
    (hown : field ∉ ownFieldNames) (hc : c.Fits) : c.shape.Keeps c.extra := by
  have htable := shape_of_not_own _ (Entries.mem_of_get? hshape) hown
  cases c with
  | any v => exact .any (hc.plain v rfl)
  | string s => exact .string s
  | count n => exact .count n
  | bool b => exact .bool b
  | strings texts => exact absurd rfl htable.1
  | schema s => exact .schema s
  | schemas ss => exact .schemas ss
  | schemaMap ss => exact .schemaMap (hc.names ss rfl)
  | additional a => exact absurd rfl htable.2

theorem Schema.WellFormed.put_extra {s : Schema} {field : Text} {v : Value} {shape : Shape}
    (hs : s.WellFormed) (hown : field ∉ ownFieldNames)
    (hshape : Shape.ofField? field = some shape) (hkeeps : shape.Keeps v) :
    { s with extras := Entries.put field v s.extras }.WellFormed where
  enum := hs.enum
  properties := hs.properties
  names := Entries.nodup_names_put field v hs.names
  notOwn := by
    intro name hname
    rw [Entries.names_put] at hname
    split at hname
    · exact hs.notOwn name hname
    · rcases List.mem_append.mp hname with hname | hname
      · exact hs.notOwn name hname
      · rwa [List.mem_singleton.mp hname]
  extras := by
    intro name w hmem
    rcases Entries.mem_put hmem with heq | hmem
    · obtain ⟨rfl, rfl⟩ := Prod.mk.inj heq
      exact ⟨shape, hshape, hkeeps⟩
    · exact hs.extras name w hmem

theorem Value.nonNull_ne_null (v : Value) : v.nonNull ≠ some .null := by
  cases v <;> simp [Value.nonNull]

theorem wellFormed_assign {s : Schema} {field : Text} {c : Content} (hs : s.WellFormed)
    (hshape : Shape.ofField? field = some c.shape) (hc : c.Fits) :
    (s.assign field c).WellFormed := by
  have hassigned := assigned_assign s hshape
  generalize s.assign field c = after at hassigned ⊢
  cases hassigned with
  | enum v => exact { hs with enum := Value.nonNull_ne_null v }
  | properties ss =>
      have hnames :
          ∀ properties, some ss = some properties → (Entries.names properties).Nodup := by
        rintro properties ⟨⟩
        exact hc.names ss rfl
      exact { hs with properties := hnames }
  | extra c hown => exact hs.put_extra hown hshape (keeps_extra hshape hown hc)
  | _ => exact { hs with }

/-! ## Children -/

theorem not_holds_of_isPlain {v : Value} (hv : v.isPlain = true) (t : Schema) : ¬v.Holds t := by
  intro h
  cases h with
  | schema => exact Value.not_isPlain_schema t hv
  | item hmem => exact Value.not_isPlain_schema t (Value.isPlain_list_iff.mp hv _ hmem)
  | entry hmem => exact Value.not_isPlain_schema t ((Value.isPlain_map_iff.mp hv).2 _ hmem)

theorem nested_of_holds_extra {c : Content} {t : Schema} (hc : c.Fits) (h : c.extra.Holds t) :
    t ∈ c.nested := by
  cases c with
  | any v => exact absurd h (not_holds_of_isPlain (hc.plain v rfl) t)
  | schema s => simpa [Content.nested, Content.extra] using h
  | schemas ss => simpa [Content.nested, Content.extra] using h
  | schemaMap ss =>
      obtain ⟨name, hmem⟩ := Value.holds_ofEntries_map_schema_iff.mp h
      exact List.mem_map_of_mem (f := Prod.snd) hmem
  | strings texts =>
      cases h with
      | item hmem => simp at hmem
  | additional a =>
      cases a with
      | forbidden => cases h
      | schema s => simpa [Content.nested, Content.extra] using h
  | _ => cases h

/-- The children of a schema after an assignment are those from before and
those of the content. -/
theorem child_assign {s t : Schema} {field : Text} {c : Content}
    (hshape : Shape.ofField? field = some c.shape) (hc : c.Fits)
    (h : (s.assign field c).Child t) : s.Child t ∨ t ∈ c.nested := by
  have hassigned := assigned_assign s hshape
  generalize s.assign field c = after at hassigned h
  cases hassigned with
  | properties ss =>
      cases h with
      | property hproperties hmem =>
          cases hproperties
          exact .inr (List.mem_map_of_mem (f := Prod.snd) hmem)
      | items hitems => exact .inl (.items hitems)
      | additional hadditional => exact .inl (.additional hadditional)
      | extra hextra hholds => exact .inl (.extra hextra hholds)
  | items t =>
      cases h with
      | property hproperties hmem => exact .inl (.property hproperties hmem)
      | items hitems =>
          cases hitems
          exact .inr (List.mem_singleton_self _)
      | additional hadditional => exact .inl (.additional hadditional)
      | extra hextra hholds => exact .inl (.extra hextra hholds)
  | additional a =>
      cases h with
      | property hproperties hmem => exact .inl (.property hproperties hmem)
      | items hitems => exact .inl (.items hitems)
      | additional hadditional =>
          cases hadditional
          exact .inr (List.mem_singleton_self _)
      | extra hextra hholds => exact .inl (.extra hextra hholds)
  | extra c hown =>
      cases h with
      | property hproperties hmem => exact .inl (.property hproperties hmem)
      | items hitems => exact .inl (.items hitems)
      | additional hadditional => exact .inl (.additional hadditional)
      | extra hextra hholds =>
          rcases Entries.mem_put hextra with hnew | hold
          · cases hnew
            exact .inr (nested_of_holds_extra hc hholds)
          · exact .inl (.extra hold hholds)
  | _ => exact .inl (h.of_same_places rfl rfl rfl rfl)

theorem everywhere_wellFormed_assign {s : Schema} {field : Text} {c : Content}
    (hs : s.Everywhere Schema.WellFormed) (hshape : Shape.ofField? field = some c.shape)
    (hc : c.Fits) : (s.assign field c).Everywhere Schema.WellFormed := by
  refine Schema.everywhere_iff.mpr ⟨wellFormed_assign hs.here hshape hc, ?_⟩
  intro t hchild
  rcases child_assign hshape hc hchild with hold | hnew
  · exact hs.child hold
  · exact hc.nested t hnew

/-! ## Readings -/

/-- What reading makes of a value whose parts are read well: contents that fit, and well-formed
schemas. -/
structure ReadsWell (v : Value) : Prop where
  field : ∀ field shape c, readField field shape v = .ok c → c.shape = shape ∧ c.Fits
  schema : ∀ s, readSchema? v = some (.ok s) → s.Everywhere Schema.WellFormed

theorem everywhere_wellFormed_readFields {entries : List (Value × Value)} {s t : Schema}
    (hparts : ∀ e ∈ entries, ReadsWell e.2) (hs : s.Everywhere Schema.WellFormed)
    (h : readFields s entries = .ok t) : t.Everywhere Schema.WellFormed := by
  induction entries generalizing s with
  | nil =>
      simp only [readFields, Except.ok.injEq] at h
      exact h ▸ hs
  | cons e rest ih =>
      obtain ⟨field, shape, c, -, hshape, hcontent, hrest⟩ := readFields_cons_eq_ok_iff.mp h
      obtain ⟨rfl, hfits⟩ := (hparts e List.mem_cons_self).field field shape c hcontent
      exact ih (fun e he => hparts e (List.mem_cons_of_mem _ he))
        (everywhere_wellFormed_assign hs hshape hfits) hrest

theorem nodup_names_of_readSchemaMap {field : Text} {entries : List (Value × Value)}
    {done ss : Entries Schema} (hnames : (Entries.names done).Nodup)
    (h : readSchemaMap field done entries = .ok ss) : (Entries.names ss).Nodup := by
  induction entries generalizing done with
  | nil =>
      obtain rfl := Except.ok.inj h
      exact hnames
  | cons e rest ih =>
      obtain ⟨-, s, -, hrest⟩ := readSchemaMap_cons_eq_ok_iff.mp h
      exact ih (Entries.nodup_names_put _ s hnames) hrest

theorem exists_entry_of_readSchemaMap {field : Text} {entries : List (Value × Value)}
    {done ss : Entries Schema} (h : readSchemaMap field done entries = .ok ss) :
    ∀ e ∈ ss, e ∈ done ∨ ∃ entry ∈ entries, readSchema? entry.2 = some (.ok e.2) := by
  induction entries generalizing done with
  | nil =>
      obtain rfl := Except.ok.inj h
      exact fun e he => .inl he
  | cons first rest ih =>
      obtain ⟨-, s, hs, hrest⟩ := readSchemaMap_cons_eq_ok_iff.mp h
      intro e he
      rcases ih hrest e he with hput | ⟨entry, hentry, hread⟩
      · rcases Entries.mem_put hput with rfl | hdone
        · exact .inr ⟨first, List.mem_cons_self, hs⟩
        · exact .inl hdone
      · exact .inr ⟨entry, List.mem_cons_of_mem _ hentry, hread⟩

/-- Where a schema in what is read from a value comes from. -/
inductive NestedIn (v : Value) (t : Schema) : Prop where
  /-- A truth value stands for a schema that says nothing. -/
  | empty (h : t = {})
  | whole (h : readSchema? v = some (.ok t))
  | item {items : List Value} {w : Value} (hitems : v.items? = some items) (hw : w ∈ items)
      (h : readSchema? w = some (.ok t))
  | entry {entries : List (Value × Value)} {e : Value × Value} (hmap : v.untied = .map entries)
      (he : e ∈ entries) (h : readSchema? e.2 = some (.ok t))

theorem nestedIn_of_readField {field : Text} {shape : Shape} {v : Value} {c : Content}
    {t : Schema} (h : readField field shape v = .ok c) (ht : t ∈ c.nested) : NestedIn v t := by
  obtain rfl := shape_of_readField h
  cases c with
  | schema s =>
      obtain ⟨_, hs, ⟨⟩⟩ := readField_schema_eq_ok_iff.mp h
      obtain rfl := List.mem_singleton.mp ht
      exact .whole hs
  | schemas ss =>
      obtain ⟨items, _, hitems, hss, ⟨⟩⟩ := readField_schemas_eq_ok_iff.mp h
      obtain ⟨w, hw, hread⟩ := exists_left_of_forall₂ hss ht
      exact .item hitems hw hread
  | schemaMap ss =>
      obtain ⟨entries, _, hmap, hss, ⟨⟩⟩ := readField_schemaMap_eq_ok_iff.mp h
      obtain ⟨e, he, rfl⟩ := List.mem_map.mp ht
      obtain ⟨entry, hentry, hread⟩ :=
        (exists_entry_of_readSchemaMap hss e he).resolve_left (by simp)
      exact .entry hmap hentry hread
  | additional a =>
      cases a with
      | forbidden => cases ht
      | schema s =>
          obtain rfl := List.mem_singleton.mp ht
          rcases readField_schemaOrBool_eq_ok_iff.mp h with ⟨b, -, hb⟩ | ⟨_, hs, ⟨⟩⟩
          · cases b <;> cases hb
            exact .empty rfl
          · exact .whole hs
  | _ => cases ht

/-- A value is read well when its items and its entries are. -/
theorem readsWell_of_parts {v : Value} (hv : v.isPlain = true)
    (hitems : ∀ items, v.items? = some items → ∀ w ∈ items, ReadsWell w)
    (hentries : ∀ entries, v.untied = .map entries → ∀ e ∈ entries, ReadsWell e.2) :
    ReadsWell v := by
  have hschema : ∀ s, readSchema? v = some (.ok s) → s.Everywhere Schema.WellFormed := by
    intro s hs
    obtain ⟨entries, hmap, hread⟩ := readSchema?_eq_ok_iff.mp hs
    exact everywhere_wellFormed_readFields (hentries entries hmap)
      everywhere_wellFormed_empty hread
  refine ⟨fun field shape c hc => ⟨shape_of_readField hc, ?_, ?_, fun t ht => ?_⟩, hschema⟩
  · rintro w rfl
    obtain rfl := shape_of_readField hc
    obtain rfl := Content.any.inj (Except.ok.inj ((readField_any field v).symm.trans hc))
    exact hv
  · rintro ss rfl
    obtain rfl := shape_of_readField hc
    obtain ⟨entries, _, -, hss, ⟨⟩⟩ := readField_schemaMap_eq_ok_iff.mp hc
    exact nodup_names_of_readSchemaMap (by simp) hss
  · cases nestedIn_of_readField hc ht with
    | empty h => exact h ▸ everywhere_wellFormed_empty
    | whole h => exact hschema t h
    | item h hw hread => exact (hitems _ h _ hw).schema t hread
    | entry h he hread => exact (hentries _ h _ he).schema t hread

/-- Plain data is read well. -/
theorem readsWell_of_isPlain {v : Value} (hv : v.isPlain = true) : ReadsWell v :=
  Value.byPlainContents (fun _ => readsWell_of_parts) hv

/-- What is read from a schema document of plain data is well-formed throughout. -/
theorem everywhere_wellFormed_ofFields {entries : List (Value × Value)} {s : Schema}
    (hplain : (Value.map entries).isPlain = true) (h : Schema.ofFields entries = .ok s) :
    s.Everywhere Schema.WellFormed :=
  (readsWell_of_isPlain hplain).schema s (congrArg some h)

end TerseSchema
