import TerseSchema.Proofs.Field.Contents
import TerseSchema.Proofs.Schema.Rereading
import TerseSchema.Proofs.Shorthand.Output
/-!
# Documents read back

Encoding is undone by reading: the document of a schema describes that very schema. Documents of
schemas with a type are told to be schema documents; a schema without a type comes from a list,
or from the shorthand for anything.
-/

namespace TerseSchema

/-! ## Types -/

theorem type_assign_of_ne {field : Text} {c : Content} (s : Schema)
    (hshape : Shape.ofField? field = some c.shape) (hfield : field ≠ "type") :
    (s.assign field c).type = s.type := by
  have hassigned := assigned_assign s hshape
  generalize s.assign field c = after at hassigned ⊢
  cases hassigned with
  | type text => exact absurd rfl hfield
  | _ => rfl

theorem type_readFields_of_not_mem {entries : List (Value × Value)} {s t : Schema}
    (hplain : ∀ e ∈ entries, e.2.isPlain = true) (hnone : ∀ v, (.text "type", v) ∉ entries)
    (h : readFields s entries = .ok t) : t.type = s.type := by
  induction entries generalizing s with
  | nil =>
      simp only [readFields, Except.ok.injEq] at h
      rw [h]
  | cons e rest ih =>
      obtain ⟨field, shape, c, hkey, hshape, hread, hrest⟩ := readFields_cons_eq_ok_iff.mp h
      obtain ⟨k, v⟩ := e
      obtain rfl : k = .text field := hkey
      rw [List.forall_mem_cons] at hplain
      obtain rfl := shape_of_readField hread
      have hfield : field ≠ "type" := by
        rintro rfl
        exact hnone v List.mem_cons_self
      rw [ih hplain.2 (fun w hw => hnone w (List.mem_cons_of_mem _ hw)) hrest]
      exact type_assign_of_ne s hshape hfield

/-- The type that a document names is the type of the schema read from it. -/
theorem type_readFields_of_mem {entries : List (Value × Value)} {s t : Schema} {type : Text}
    (hkeys : distinctKeys entries = true) (hplain : ∀ e ∈ entries, e.2.isPlain = true)
    (hmem : (.text "type", .text type) ∈ entries) (h : readFields s entries = .ok t) :
    t.type = type := by
  induction entries generalizing s with
  | nil => simp at hmem
  | cons e rest ih =>
      obtain ⟨field, shape, c, hkey, hshape, hread, hrest⟩ := readFields_cons_eq_ok_iff.mp h
      rw [List.forall_mem_cons] at hplain
      rcases List.mem_cons.mp hmem with rfl | hmem
      · obtain rfl : "type" = field := Value.text.inj hkey
        obtain rfl := Option.some.inj (ofField?_type.symm.trans hshape)
        obtain ⟨text, htext, rfl⟩ := readField_string_eq_ok_iff.mp hread
        obtain rfl : type = text := Value.text.inj htext
        have hnone : ∀ v, (.text "type", v) ∉ rest :=
          fun v => Value.not_mem_of_distinctKeys hkeys
        rw [type_readFields_of_not_mem hplain.2 hnone hrest]
        simp [Schema.assign]
      · simp only [distinctKeys, Bool.and_eq_true] at hkeys
        exact ih hkeys.2 hplain.2 hmem hrest

theorem mem_of_field? {name : Text} {entries : List (Value × Value)} {v : Value}
    (h : Value.field? name entries = some v) : (.text name, v) ∈ entries := by
  induction entries with
  | nil => simp [Value.field?] at h
  | cons e rest ih =>
      obtain ⟨k, w⟩ := e
      cases k with
      | text key =>
          by_cases hkey : key = name
          · simp only [Value.field?, hkey, if_true, Option.some.injEq] at h
            simp [hkey, h]
          · simp only [Value.field?, hkey, if_false] at h
            exact List.mem_cons_of_mem _ (ih h)
      | _ => exact List.mem_cons_of_mem _ (ih h)

/-! ## Documents -/

theorem entries?_eq_some_iff {v : Value} {entries : List (Value × Value)} :
    v.entries? = some entries ↔ v.untied = .map entries := by
  rw [Value.entries?]
  split <;> simp_all

theorem ofDocument_of_entries {v : Value} {entries : List (Value × Value)}
    (h : v.entries? = some entries) : Schema.ofDocument v = readFields {} entries := by
  rw [Schema.ofDocument, h]
  rfl

theorem isPlain_entries {v : Value} {entries : List (Value × Value)} (hplain : v.isPlain = true)
    (h : v.entries? = some entries) : (Value.map entries).isPlain = true := by
  rw [← entries?_eq_some_iff.mp h]
  exact Value.isPlain_untied hplain

theorem everywhere_wellFormed_ofDocument {v : Value} {s : Schema} (hplain : v.isPlain = true)
    (h : Schema.ofDocument v = .ok s) : s.Everywhere Schema.WellFormed := by
  cases hentries : v.entries? with
  | none =>
      rw [Schema.ofDocument, hentries] at h
      cases h
      exact everywhere_wellFormed_empty
  | some entries =>
      rw [ofDocument_of_entries hentries] at h
      exact everywhere_wellFormed_ofFields (isPlain_entries hplain hentries) h

theorem entries?_document {s : Schema} (hs : s.WellFormed) :
    s.document.entries? = some (s.fields.map fun e => (.text e.1, e.2)) := by
  rw [document_eq_ofEntries_fields hs]
  rfl

/-- A well-formed schema is read back from its document. -/
theorem ofDocument_document {s : Schema} (hs : s.Everywhere Schema.WellFormed) :
    Schema.ofDocument s.document = .ok s.reread := by
  have hread := readSchema?_document hs
  rw [document_eq_ofEntries_fields hs.here, Value.ofEntries, readSchema?_map,
    Option.some.injEq] at hread
  rw [ofDocument_of_entries (entries?_document hs.here), hread]

/-! ## Routes -/

/-- A schema document is a map whose type is a type of JSON Schema. -/
theorem route_eq_schema_iff {v : Value} :
    Route.of v = .schema ↔ ∃ entries type, v.entries? = some entries ∧
      Value.field? "type" entries = some (.text type) ∧ type ∈ schemaTypes := by
  cases hentries : v.entries? with
  | none => simp [Route.of, hentries]
  | some entries =>
      have hroute : Route.of v = .schema ↔
          (Value.field? "type" entries).any Value.isSchemaType = true := by
        simp only [Route.of, hentries]
        constructor
        · intro h
          by_contra hnot
          rw [if_neg hnot] at h
          split at h <;> cases h
        · exact fun h => if_pos h
      rw [hroute]
      cases hfield : Value.field? "type" entries with
      | none => simp [hfield]
      | some w => cases w <;> simp [hfield, Value.isSchemaType]

theorem route_document {s : Schema} (hs : s.WellFormed) (htype : s.type ∈ schemaTypes) :
    Route.of s.document = .schema := by
  have hempty : s.type.isEmpty = false := by
    rw [List.isEmpty_eq_false_iff]
    intro hnil
    rw [hnil] at htype
    exact absurd htype (by decide)
  refine route_eq_schema_iff.mpr ⟨_, s.type, entries?_document hs, ?_, htype⟩
  simp [Schema.fields, Schema.ownFields, hempty, documentField, Value.field?]

theorem type_of_route_schema {v : Value} {s : Schema} (hplain : v.isPlain = true)
    (hroute : Route.of v = .schema) (h : Schema.ofDocument v = .ok s) :
    s.type ∈ schemaTypes := by
  obtain ⟨entries, type, hentries, hfield, htype⟩ := route_eq_schema_iff.mp hroute
  obtain ⟨hkeys, hvalues⟩ := Value.isPlain_map_iff.mp (isPlain_entries hplain hentries)
  rw [ofDocument_of_entries hentries] at h
  rwa [type_readFields_of_mem hkeys hvalues (mem_of_field? hfield) h]

theorem route_null : Route.of .null = .shorthand := rfl

theorem schemaOf_of_schema {v : Value} (hroute : Route.of v = .schema) :
    schemaOf v = (Schema.ofDocument v).map some := by
  have hnull : v ≠ .null := by
    rintro rfl
    simp [route_null] at hroute
  cases v <;> simp_all [schemaOf] <;> rfl

theorem schemaOf_of_objectSchema {v : Value} (hroute : Route.of v = .objectSchema) :
    schemaOf v = (Schema.ofDocument v).map fun t => some { t with type := "object" } := by
  have hnull : v ≠ .null := by
    rintro rfl
    simp [route_null] at hroute
  cases v <;> simp_all [schemaOf] <;> rfl

theorem schemaOf_of_shorthand {v : Value} (hroute : Route.of v = .shorthand)
    (hnull : v ≠ .null) : schemaOf v = (Shorthand.expand v).map some := by
  cases v <;> simp_all [schemaOf] <;> rfl

/-- Where the schema of a document comes from. -/
theorem schemaOf_eq_ok_some_iff {v : Value} {s : Schema} :
    schemaOf v = .ok (some s) ↔
      (Route.of v = .schema ∧ Schema.ofDocument v = .ok s) ∨
      (Route.of v = .objectSchema ∧ ∃ t, Schema.ofDocument v = .ok t ∧
        s = { t with type := "object" }) ∨
      (v ≠ .null ∧ Route.of v = .shorthand ∧ Shorthand.expand v = .ok s) := by
  by_cases hnull : v = .null
  · subst hnull
    simp [schemaOf, route_null]
  cases hroute : Route.of v with
  | schema =>
      rw [schemaOf_of_schema hroute]
      cases Schema.ofDocument v <;> simp [Except.map]
  | objectSchema =>
      rw [schemaOf_of_objectSchema hroute]
      cases Schema.ofDocument v <;> simp [Except.map, @eq_comm _ s]
  | shorthand =>
      rw [schemaOf_of_shorthand hroute hnull]
      cases Shorthand.expand v <;> simp [Except.map, hnull]

/-- What holds throughout the schemas that a document is read as, and is no matter of the type,
holds throughout the schema of the document. -/
theorem everywhere_schemaOf {P : Schema → Prop} {v : Value} {s : Schema}
    (htype : ∀ t type, P t → P { t with type })
    (hread : ∀ t, Schema.ofDocument v = .ok t → t.Everywhere P)
    (hexpand : ∀ t, Shorthand.expand v = .ok t → t.Everywhere P)
    (h : schemaOf v = .ok (some s)) :
    s.Everywhere P := by
  rcases schemaOf_eq_ok_some_iff.mp h with ⟨-, hs⟩ | ⟨-, t, ht, rfl⟩ | ⟨-, -, hs⟩
  · exact hread s hs
  · refine Schema.everywhere_iff.mpr ⟨htype t _ (hread t ht).here, fun u hu => ?_⟩
    exact (hread t ht).child (hu.of_same_places rfl rfl rfl rfl)
  · exact hexpand s hs

/-- Only an empty document describes no schema at all. -/
theorem eq_null_of_schemaOf {v : Value} (h : schemaOf v = .ok none) : v = .null := by
  by_contra hnull
  cases hroute : Route.of v with
  | schema =>
      rw [schemaOf_of_schema hroute] at h
      cases hread : Schema.ofDocument v <;> simp [hread, Except.map] at h
  | objectSchema =>
      rw [schemaOf_of_objectSchema hroute] at h
      cases hread : Schema.ofDocument v <;> simp [hread, Except.map] at h
  | shorthand =>
      rw [schemaOf_of_shorthand hroute hnull] at h
      cases hexpand : Shorthand.expand v <;> simp [hexpand, Except.map] at h

/-! ## Reading back -/

/-- A schema that is the same as another in every field at every depth, and is that very schema
when no allowed values lie inside of themselves. -/
def Schema.IsCopyOf (t s : Schema) : Prop :=
  t.Agree s ∧ (s.Everywhere Schema.HasNoKnot → t = s)

theorem isCopyOf_reread {s : Schema} (hs : s.Everywhere Schema.HasNoTuple) :
    s.reread.IsCopyOf s :=
  ⟨agree_mapEnums_enumDocument hs, mapEnums_enumDocument_eq_self hs⟩

theorem reread_of_isOutput {s : Schema} (hs : s.Everywhere Shorthand.IsOutput) :
    s.reread = s := by
  refine mapEnums_enumDocument_eq_self (hs.imp ?_) (hs.imp ?_)
  · intro t ht v items hv
    obtain ⟨_, rfl⟩ := ht.enum v hv
    simp
  · intro t ht v hv
    obtain ⟨_, rfl⟩ := ht.enum v hv
    rfl

theorem everywhere_wellFormed_type {s : Schema} (hs : s.Everywhere Schema.WellFormed)
    (type : Text) : ({ s with type } : Schema).Everywhere Schema.WellFormed := by
  refine Schema.everywhere_iff.mpr ⟨{ hs.here with }, fun t hchild => ?_⟩
  exact hs.child (hchild.of_same_places rfl rfl rfl rfl)

/-- The schema of plain data is well-formed throughout, and its type, if it has one, is
a type of JSON Schema. -/
theorem everywhere_wellFormed_schemaOf {v : Value} {s : Schema} (hplain : v.isPlain = true)
    (h : schemaOf v = .ok (some s)) :
    s.Everywhere Schema.WellFormed ∧ (s.type = [] ∨ s.type ∈ schemaTypes) := by
  rcases schemaOf_eq_ok_some_iff.mp h with ⟨hroute, hread⟩ | ⟨-, t, hread, rfl⟩ | ⟨-, -, hexpand⟩
  · exact ⟨everywhere_wellFormed_ofDocument hplain hread,
      .inr (type_of_route_schema hplain hroute hread)⟩
  · have hobject : ("object" : Text) ∈ schemaTypes := by decide
    exact ⟨everywhere_wellFormed_type (everywhere_wellFormed_ofDocument hplain hread) _,
      .inr hobject⟩
  · have houtput := Shorthand.everywhere_isOutput_expand hexpand
    exact ⟨houtput.imp fun _ ht => ht.wellFormed, houtput.here.type⟩

theorem ofDocument_document_of_expand {v : Value} {s : Schema} (h : Shorthand.expand v = .ok s) :
    Schema.ofDocument s.document = .ok s := by
  have houtput := Shorthand.everywhere_isOutput_expand h
  rw [ofDocument_document (houtput.imp fun _ ht => ht.wellFormed), reread_of_isOutput houtput]

theorem expand_of_route_shorthand {v : Value} {s : Schema} (hroute : Route.of v = .shorthand)
    (h : schemaOf v = .ok (some s)) : Shorthand.expand v = .ok s := by
  rcases schemaOf_eq_ok_some_iff.mp h with ⟨hschema, -⟩ | ⟨hobject, -⟩ | ⟨-, -, hexpand⟩
  · rw [hroute] at hschema
    cases hschema
  · rw [hroute] at hobject
    cases hobject
  · exact hexpand

theorem items_or_any_of_type_eq_nil {v : Value} {s : Schema} (hplain : v.isPlain = true)
    (h : schemaOf v = .ok (some s)) (htype : s.type = []) :
    (∃ items, v.items? = some items) ∨
      ∃ token, v.untied = .text token ∧ token.takeWhile (· ≠ .char ',') = "any" := by
  rcases schemaOf_eq_ok_some_iff.mp h with ⟨hroute, hread⟩ | ⟨-, t, -, rfl⟩ | ⟨-, -, hexpand⟩
  · have hmem := type_of_route_schema hplain hroute hread
    rw [htype] at hmem
    exact absurd hmem (by decide)
  · exact absurd (show ("object" : Text) = [] from htype) (by decide)
  · exact Shorthand.items_or_any_of_expand hexpand htype

/-- What a schema is encoded as is read back as that schema, whether it was expanded or read; and
the document of a schema with a type is told to be a schema document. -/
theorem read_document_back {v : Value} (hplain : v.isPlain = true) :
    (∀ s, Shorthand.expand v = .ok s → Schema.ofDocument s.document = .ok s) ∧
    (∀ s, Schema.ofDocument v = .ok s → s.Everywhere Schema.HasNoTuple →
      ∃ t, Schema.ofDocument s.document = .ok t ∧ t.IsCopyOf s) ∧
    (∀ s, schemaOf v = .ok (some s) → s.type ≠ [] →
      Route.of s.document = .schema ∧
      (Route.of v = .shorthand → schemaOf s.document = .ok (some s)) ∧
      (s.Everywhere Schema.HasNoTuple → ∃ t, schemaOf s.document = .ok (some t) ∧
        t.IsCopyOf s)) ∧
    (∀ s, schemaOf v = .ok (some s) → s.type = [] →
      (∃ items, v.items? = some items) ∨
        ∃ token, v.untied = .text token ∧ token.takeWhile (· ≠ .char ',') = "any") := by
  refine ⟨fun s => ofDocument_document_of_expand, ?_, ?_,
    fun s => items_or_any_of_type_eq_nil hplain⟩
  · intro s hread htuple
    have hs := everywhere_wellFormed_ofDocument hplain hread
    exact ⟨s.reread, ofDocument_document hs, isCopyOf_reread htuple⟩
  · intro s hschema htype
    obtain ⟨hs, hnil | hmem⟩ := everywhere_wellFormed_schemaOf hplain hschema
    · exact absurd hnil htype
    have hroute := route_document hs.here hmem
    refine ⟨hroute, fun hshorthand => ?_, fun htuple => ⟨s.reread, ?_, isCopyOf_reread htuple⟩⟩
    · have hexpand := expand_of_route_shorthand hshorthand hschema
      exact schemaOf_eq_ok_some_iff.mpr (.inl ⟨hroute, ofDocument_document_of_expand hexpand⟩)
    · exact schemaOf_eq_ok_some_iff.mpr (.inl ⟨hroute, ofDocument_document hs⟩)

def colored : Value :=
  .map [(.text "properties",
    .map [(.text "color", .map [(.text "enum", .list [.null, .int 1])])])]

def coloredSchema : Schema :=
  { type := "object", properties := some [("color", { enum := some (.list [.null, .int 1]) })] }

theorem read_colored_back : colored.isPlain = true ∧
    schemaOf coloredSchema.document = .ok (some coloredSchema) := by
  have hplain : colored.isPlain = true := by decide
  have hschema : schemaOf colored = .ok (some coloredSchema) := rfl
  have hlist : coloredSchema.Everywhere fun t => ∀ v, t.enum = some v →
      v = .list [.null, .int 1] := by
    refine Schema.everywhere_iff.mpr ⟨by simp [coloredSchema], fun t hchild => ?_⟩
    obtain rfl : t = { enum := some (.list [.null, .int 1]) } := by
      cases hchild with
      | property hproperties hmem =>
          obtain rfl := Option.some.inj hproperties
          exact (Prod.mk.inj (List.mem_singleton.mp hmem)).2
      | _ => simp_all [coloredSchema]
    refine Schema.everywhere_iff.mpr ⟨by simp, fun u hchild => ?_⟩
    cases hchild <;> simp_all
  have htuple : coloredSchema.Everywhere Schema.HasNoTuple := by
    refine hlist.imp fun t ht v items hv => ?_
    simp [ht v hv]
  have hknot : coloredSchema.Everywhere Schema.HasNoKnot := by
    refine hlist.imp fun t ht v hv => ?_
    simp [ht v hv]
  obtain ⟨-, -, hroutes, -⟩ := read_document_back hplain
  obtain ⟨-, -, hread⟩ := hroutes coloredSchema hschema (by decide)
  obtain ⟨t, ht, -, hcopy⟩ := hread htuple
  rw [hcopy hknot] at ht
  exact ⟨hplain, ht⟩

end TerseSchema
