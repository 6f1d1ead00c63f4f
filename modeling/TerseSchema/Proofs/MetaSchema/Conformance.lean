import TerseSchema.Proofs.MetaSchema.Keywords
import TerseSchema.Proofs.Schema.Document
import Mathlib.Tactic.MkIffOfInductiveProp
/-!
# Schemas that conform

What reading leaves open and the meta-schema asks for, said of the nodes of a schema: the
document of a well-formed schema is a schema exactly when all its nodes conform.
-/

namespace TerseSchema.MetaSchema

open TerseSchema

def schemaListFields : List Text := ["allOf", "anyOf", "oneOf", "prefixItems"]

/-- A list or tuple, also where a list that lies inside of itself is cut off. -/
def IsSequence (v : Value) : Prop := IsList v ∨ ∃ items, v.untied = .tuple items

/-- What is asked of an extra field. -/
@[mk_iff]
structure ExtraConforms (name : Text) (v : Value) : Prop where
  nonEmpty : name ∈ schemaListFields → v ≠ .list []
  number : name ∈ numberFields → IsNumber v
  positive : name = "multipleOf" →
    IsNumber v ∧ ∀ m, v.magnitude? = some m → (Magnitude.ratio 0 1).less m = true
  list : name = "examples" → IsList v
  identifier : name = "$id" → ∀ s, v = .text s → identifierPattern.matchesAll s = true
  anchor : name = "$anchor" → ∀ s, v = .text s → anchorPattern.matchesAll s = true

/-- What is asked of a node by itself. -/
structure Conforms (s : Schema) : Prop where
  type : s.type = [] ∨ s.type ∈ schemaTypes
  enum : ∀ v, s.enum = some v → IsSequence v
  required : s.required.Nodup
  extras : ∀ name v, (name, v) ∈ s.extras → ExtraConforms name v

/-! ## Extra fields -/

private theorem shape_of_named {name : Text} {shape : Shape}
    (hshape : Shape.ofField? name = some shape) :
    (name ∈ schemaListFields → shape = .schemas) ∧
    (name ∈ numberFields ∨ name = "multipleOf" ∨ name = "examples" → shape = .any) ∧
    (name = "$id" ∨ name = "$anchor" → shape = .string) := by
  have hlists : ∀ n ∈ schemaListFields, Shape.ofField? n = some .schemas := by decide
  have hnumbers : ∀ n ∈ numberFields, Shape.ofField? n = some .any := by decide
  have hmultiple : Shape.ofField? "multipleOf" = some .any := by decide
  have hexamples : Shape.ofField? "examples" = some .any := by decide
  have hid : Shape.ofField? "$id" = some .string := by decide
  have hanchor : Shape.ofField? "$anchor" = some .string := by decide
  have hunique : ∀ other, Shape.ofField? name = some other → shape = other := fun other h =>
    Option.some.inj (hshape.symm.trans h)
  refine ⟨fun h => hunique _ (hlists name h), ?_, ?_⟩
  · rintro (h | rfl | rfl)
    · exact hunique _ (hnumbers name h)
    · exact hunique _ hmultiple
    · exact hunique _ hexamples
  · rintro (rfl | rfl)
    · exact hunique _ hid
    · exact hunique _ hanchor

theorem meets_any_iff {name : Text} {v : Value} (hshape : Shape.ofField? name = some .any)
    (hown : name ∉ ownFieldNames) : Meets v (demandFor name .any) ↔ ExtraConforms name v := by
  obtain ⟨hlist, -, hstring⟩ := shape_of_named hshape
  have henum : name ≠ "enum" := by
    rintro rfl
    exact hown (by decide)
  simp only [reduceCtorEq, imp_false, not_or] at hlist hstring
  simp only [demandFor, extraConforms_iff, hlist, hstring, henum, false_imp_iff,
    true_and, and_true, false_or]
  by_cases hnumber : name ∈ numberFields
  · have hother : ∀ n ∈ numberFields, n ≠ "multipleOf" ∧ n ≠ "examples" := by decide
    simp [hnumber, hother name hnumber, meets_number_iff]
  by_cases hmultiple : name = "multipleOf"
  · have hexamples : name ≠ "examples" := by
      rw [hmultiple]
      decide
    rw [if_neg hnumber, if_pos hmultiple, meets_positiveNumber_iff]
    exact ⟨fun h => ⟨fun hn => absurd hn hnumber, fun _ => h, fun he => absurd he hexamples⟩,
      fun h => h.2.1 hmultiple⟩
  by_cases hexamples : name = "examples"
  · rw [if_neg hnumber, if_neg hmultiple, if_pos hexamples, meets_list_iff]
    exact ⟨fun h => ⟨fun hn => absurd hn hnumber, fun hm => absurd hm hmultiple, fun _ => h⟩,
      fun h => h.2.2 hexamples⟩
  · simp [hnumber, hmultiple, hexamples, meets_anything]

theorem meets_text_iff {name : Text} {s : Text} (hshape : Shape.ofField? name = some .string)
    (hown : name ∉ ownFieldNames) :
    Meets (.text s) (demandFor name .string) ↔ ExtraConforms name (.text s) := by
  obtain ⟨hlist, hany, -⟩ := shape_of_named hshape
  have htype : name ≠ "type" := by
    rintro rfl
    exact hown (by decide)
  simp only [reduceCtorEq, imp_false, not_or] at hlist hany
  simp only [demandFor, extraConforms_iff, hlist, hany, htype, false_imp_iff, true_and, if_false,
    Value.text.injEq, forall_eq']
  by_cases hid : name = "$id"
  · have hanchor : name ≠ "$anchor" := by
      rw [hid]
      decide
    rw [if_pos hid, identifier, meets_pattern_iff]
    exact ⟨fun h => ⟨fun _ => h, fun ha => absurd ha hanchor⟩, fun h => h.1 hid⟩
  by_cases hanchor : name = "$anchor"
  · rw [if_neg hid, if_pos hanchor, anchor, meets_pattern_iff]
    exact ⟨fun h => ⟨fun hi => absurd hi hid, fun _ => h⟩, fun h => h.2 hanchor⟩
  · simp [hid, hanchor, meets_string]

/-- Fields of all but three shapes are asked for nothing that their shape does not tell. -/
theorem extraConforms_of_shape {name : Text} {shape : Shape} (v : Value)
    (hshape : Shape.ofField? name = some shape) (hany : shape ≠ .any) (hstring : shape ≠ .string)
    (hschemas : shape ≠ .schemas) : ExtraConforms name v := by
  obtain ⟨hlist, hnumber, htext⟩ := shape_of_named hshape
  exact {
    nonEmpty := fun h => absurd (hlist h) hschemas
    number := fun h => absurd (hnumber (.inl h)) hany
    positive := fun h => absurd (hnumber (.inr (.inl h))) hany
    list := fun h => absurd (hnumber (.inr (.inr h))) hany
    identifier := fun h => absurd (htext (.inl h)) hstring
    anchor := fun h => absurd (htext (.inr h)) hstring }

theorem extraConforms_schemas_iff {name : Text} {ss : List Schema}
    (hshape : Shape.ofField? name = some .schemas) :
    ExtraConforms name (.list (ss.map .schema)) ↔ ss ≠ [] := by
  have htable : ∀ e ∈ fieldShapes, e.2 = .schemas → e.1 ∈ schemaListFields := by decide
  have hmem : name ∈ schemaListFields := htable (name, .schemas) (Entries.mem_of_get? hshape) rfl
  obtain ⟨-, hany, hstring⟩ := shape_of_named hshape
  simp only [reduceCtorEq, imp_false, not_or] at hany hstring
  simp [extraConforms_iff, hmem, hany, hstring]

/-- What is found against an extra field is found against the field itself or
against a schema in it. -/
theorem meets_extraDocument_iff {name : Text} {shape : Shape} {v : Value}
    (hshape : Shape.ofField? name = some shape) (hown : name ∉ ownFieldNames)
    (hv : shape.Keeps v) :
    Meets (extraDocument v) (demandFor name shape) ↔
      ExtraConforms name v ∧ ∀ t, v.Holds t → Meets t.document .schema := by
  have hplainly : v.isPlain = true →
      (Meets v (demandFor name shape) ↔ ExtraConforms name v) →
      (Meets (extraDocument v) (demandFor name shape) ↔
        ExtraConforms name v ∧ ∀ t, v.Holds t → Meets t.document .schema) := by
    intro hplain hiff
    rw [extraDocument_of_isPlain hplain, hiff]
    exact ⟨fun h => ⟨h, fun t ht => absurd ht (not_holds_of_isPlain hplain t)⟩, And.left⟩
  cases hv with
  | any hplain => exact hplainly hplain (meets_any_iff hshape hown)
  | string s => exact hplainly rfl (meets_text_iff hshape hown)
  | count n =>
      have hextra := extraConforms_of_shape (.int n) hshape (by simp) (by simp) (by simp)
      exact hplainly rfl (iff_of_true (meets_count n) hextra)
  | bool b =>
      have hextra := extraConforms_of_shape (.bool b) hshape (by simp) (by simp) (by simp)
      exact hplainly rfl (iff_of_true (meets_boolean b) hextra)
  | schema s =>
      have hextra := extraConforms_of_shape (.schema s) hshape (by simp) (by simp) (by simp)
      simp [hextra, extraDocument, demandFor]
  | schemas ss =>
      rw [extraDocument_list_schemas, demandFor, meets_schemaArray_iff,
        extraConforms_schemas_iff hshape]
      simp
  | @schemaMap ss hnames =>
      have hextra :=
        extraConforms_of_shape (.ofEntries (ss.map fun e => (e.1, .schema e.2))) hshape
          (by simp) (by simp) (by simp)
      rw [extraDocument_map_schemas, demandFor, meets_schemaMap_iff]
      simp only [hextra, true_and, Value.holds_ofEntries_map_schema_iff, List.forall_mem_map]
      constructor
      · rintro h t ⟨name, ht⟩
        exact h (name, t) ht
      · exact fun h e he => h e.2 ⟨e.1, he⟩

/-! ## Own fields -/

theorem meets_enumDocument_iff {v : Value} : Meets (enumDocument v) list ↔ IsSequence v := by
  rw [meets_list_iff, IsSequence]
  simp only [enumDocument, IsList]
  split
  · next items htuple => simp [htuple]
  · next items hlist => simp [hlist]
  · next htuple _ =>
      refine ⟨.inl, fun h => h.resolve_right ?_⟩
      rintro ⟨items, hitems⟩
      exact htuple items hitems

theorem meets_additionalDocument_iff {a : Additional} :
    Meets a.document .schema ↔ ∀ t, a = .schema t → Meets t.document .schema := by
  cases a with
  | forbidden => simp [Additional.document, meets_schema_bool]
  | schema t => simp [Additional.document]

def FieldMeets (e : Text × Value) : Prop :=
  ∀ shape, Shape.ofField? e.1 = some shape → Meets e.2 (demandFor e.1 shape)

theorem fieldMeets_iff {name : String} {v : Value} {shape : Shape}
    (hshape : Shape.ofField? name = some shape) :
    FieldMeets (documentField name v) ↔ Meets v (demandFor name shape) := by
  rw [FieldMeets, documentField, hshape]
  simp

theorem fieldMeets_ownFields_iff (s : Schema) :
    (∀ e ∈ s.ownFields, FieldMeets e) ↔
      (s.type = [] ∨ s.type ∈ schemaTypes) ∧ (∀ v, s.enum = some v → IsSequence v) ∧
      (∀ ps, s.properties = some ps → ∀ e ∈ ps, Meets e.2.document .schema) ∧
      (∀ t, s.items = some t → Meets t.document .schema) ∧ s.required.Nodup ∧
      (∀ t, s.additional = some (.schema t) → Meets t.document .schema) := by
  have htype : ∀ v, FieldMeets (documentField "type" v) ↔ Meets v simpleTypes :=
    fun v => @fieldMeets_iff "type" v .string (by decide)
  have hdescription : ∀ v, FieldMeets (documentField "description" v) ↔ Meets v string :=
    fun v => @fieldMeets_iff "description" v .string (by decide)
  have henum : ∀ v, FieldMeets (documentField "enum" v) ↔ Meets v list :=
    fun v => @fieldMeets_iff "enum" v .any (by decide)
  have hproperties : ∀ v, FieldMeets (documentField "properties" v) ↔ Meets v schemaMap :=
    fun v => @fieldMeets_iff "properties" v .schemaMap (by decide)
  have hitems : ∀ v, FieldMeets (documentField "items" v) ↔ Meets v .schema :=
    fun v => @fieldMeets_iff "items" v .schema (by decide)
  have hrequired : ∀ v, FieldMeets (documentField "required" v) ↔ Meets v stringArray :=
    fun v => @fieldMeets_iff "required" v .strings (by decide)
  have hadditional : ∀ v, FieldMeets (documentField "additionalProperties" v) ↔
      Meets v .schema :=
    fun v => @fieldMeets_iff "additionalProperties" v .schemaOrBool (by decide)
  have hnames : s.required = [] ∨ s.required.Nodup ↔ s.required.Nodup := by
    cases s.required <;> simp
  have hforbidden :
      (∀ a, s.additional = some a → ∀ t, a = .schema t → Meets t.document .schema) ↔
      ∀ t, s.additional = some (.schema t) → Meets t.document .schema := by
    constructor
    · exact fun h t ht => h _ ht t rfl
    · rintro h a ha t rfl
      exact h t ha
  simp only [Schema.ownFields, List.forall_mem_append, forall_mem_ite_isEmpty_iff,
    forall_mem_map_toList_iff, propertyDocuments_eq, htype, hdescription, henum,
    hproperties, hitems,
    hrequired, hadditional, meets_simpleTypes_iff, meets_string, meets_enumDocument_iff,
    meets_schemaMap_iff, List.forall_mem_map, meets_stringArray_iff,
    meets_additionalDocument_iff, hnames, hforbidden, or_true, true_and, and_assoc]

/-! ## Schemas -/

theorem shape_of_mem_fields {s : Schema} (hs : s.WellFormed) {e : Text × Value}
    (he : e ∈ s.fields) : ∃ shape, Shape.ofField? e.1 = some shape := by
  rcases List.mem_append.mp he with hown | hextra
  · have htable : ∀ name ∈ ownFieldNames, (Shape.ofField? name).isSome = true := by decide
    have hname := (names_ownFields_sublist s).subset (Entries.mem_names_of_mem hown)
    exact Option.isSome_iff_exists.mp (htable e.1 hname)
  · obtain ⟨⟨name, v⟩, hmem, rfl⟩ := List.mem_map.mp hextra
    obtain ⟨shape, hshape, -⟩ := hs.extras name v hmem
    exact ⟨shape, hshape⟩

theorem fieldMeets_extras_iff {s : Schema} (hs : s.WellFormed) :
    (∀ e ∈ s.extras.map fun e => (e.1, extraDocument e.2), FieldMeets e) ↔
      ∀ name v, (name, v) ∈ s.extras →
        ExtraConforms name v ∧ ∀ t, v.Holds t → Meets t.document .schema := by
  rw [List.forall_mem_map, Prod.forall]
  refine forall₂_congr fun name v => ?_
  refine forall_congr' fun hmem => ?_
  obtain ⟨shape, hshape, hkeeps⟩ := hs.extras name v hmem
  have hown := hs.notOwn name (Entries.mem_names_of_mem hmem)
  rw [← meets_extraDocument_iff hshape hown hkeeps, FieldMeets, hshape]
  simp

/-- What is found against a document is found against the node itself or
against one of its children. -/
theorem meets_document_iff {s : Schema} (hs : s.WellFormed) :
    Meets s.document .schema ↔ Conforms s ∧ ∀ t, s.Child t → Meets t.document .schema := by
  rw [document_eq_ofEntries_fields hs, meets_schema_ofEntries_iff (nodup_names_fields hs)
    fun e he => shape_of_mem_fields hs he]
  change (∀ e ∈ s.fields, FieldMeets e) ↔ _
  rw [Schema.fields, List.forall_mem_append, fieldMeets_ownFields_iff, fieldMeets_extras_iff hs]
  constructor
  · rintro ⟨⟨htype, henum, hproperties, hitems, hrequired, hadditional⟩, hextras⟩
    refine ⟨⟨htype, henum, hrequired, fun name v h => (hextras name v h).1⟩, fun t hchild => ?_⟩
    cases hchild with
    | property h hmem => exact hproperties _ h _ hmem
    | items h => exact hitems t h
    | additional h => exact hadditional t h
    | extra h hholds => exact (hextras _ _ h).2 t hholds
  · rintro ⟨hconforms, hchildren⟩
    refine ⟨⟨hconforms.type, hconforms.enum, ?_, ?_, hconforms.required, ?_⟩, ?_⟩
    · exact fun ps hps e he => hchildren e.2 (.property hps he)
    · exact fun t ht => hchildren t (.items ht)
    · exact fun t ht => hchildren t (.additional ht)
    · exact fun name v h => ⟨hconforms.extras name v h, fun t ht => hchildren t (.extra h ht)⟩

/-- A document is a schema exactly when all nodes of the schema conform. -/
theorem meets_document_iff_everywhere {s : Schema} (hs : s.Everywhere Schema.WellFormed) :
    Meets s.document .schema ↔ s.Everywhere Conforms := by
  induction s using Schema.byChildren with
  | step s ih =>
      rw [meets_document_iff hs.here, Schema.everywhere_iff]
      refine and_congr_right fun _ => forall₂_congr fun t ht => ih t ht (hs.child ht)

end TerseSchema.MetaSchema
