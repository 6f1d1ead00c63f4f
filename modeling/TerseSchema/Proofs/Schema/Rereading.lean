import TerseSchema.Proofs.Schema.AllowedValues
import TerseSchema.Proofs.Schema.Document
/-!
# Reading documents back

A schema is read back from its own document: field by field, each place of the schema is filled
again with what it held. Only allowed values are copied on the way, as `enumDocument` tells.
-/

namespace TerseSchema

abbrev Schema.reread : Schema → Schema := Schema.mapEnums enumDocument

/-! ## Entries under texts -/

def readEntries (s : Schema) (es : Entries Value) : Except Failure Schema :=
  readFields s (es.map fun e => (.text e.1, e.2))

@[simp] theorem readEntries_nil (s : Schema) : readEntries s [] = .ok s := rfl

theorem readEntries_append {s t : Schema} {es : Entries Value} (more : Entries Value)
    (h : readEntries s es = .ok t) : readEntries s (es ++ more) = readEntries t more := by
  rw [readEntries, List.map_append, readFields_append h]
  rfl

theorem readEntries_cons {s : Schema} {name : Text} {v : Value} {rest : Entries Value}
    {shape : Shape} {c : Content} (hshape : Shape.ofField? name = some shape)
    (hread : readField name shape v = .ok c) :
    readEntries s ((name, v) :: rest) = readEntries (s.assign name c) rest := by
  simp [readEntries, readFields, hshape, hread, bind, Except.bind]

theorem readEntries_documentField {s : Schema} {name : String} {shape : Shape} {v : Value}
    {c : Content} (hshape : Shape.ofField? name = some shape)
    (hread : readField name shape v = .ok c) :
    readEntries s [documentField name v] = .ok (s.assign name c) := by
  rw [documentField, readEntries_cons hshape hread, readEntries_nil]

/-! ## Nested schemas -/

theorem readSchemas_documents {field : Text} {ss : List Schema}
    (h : ∀ t ∈ ss, readSchema? t.document = some (.ok t.reread)) :
    readField field .schemas (.list (ss.map Schema.document)) =
      .ok (.schemas (ss.map Schema.reread)) := by
  refine readField_schemas_eq_ok_iff.mpr ⟨_, _, Value.items?_list _, ?_, rfl⟩
  rw [List.forall₂_map_left_iff, List.forall₂_map_right_iff, List.forall₂_same]
  exact h

theorem readSchemaMap_documents {field : Text} {done ss : Entries Schema}
    (hnames : (Entries.names (done ++ ss)).Nodup)
    (h : ∀ e ∈ ss, readSchema? e.2.document = some (.ok e.2.reread)) :
    readSchemaMap field done (ss.map fun e => (.text e.1, e.2.document)) =
      .ok (done ++ ss.map fun e => (e.1, e.2.reread)) := by
  induction ss generalizing done with
  | nil => simp [readSchemaMap]
  | cons e rest ih =>
      have hfresh : e.1 ∉ Entries.names done := by
        intro hmem
        rw [Entries.names_append, List.nodup_append] at hnames
        exact hnames.2.2 e.1 hmem e.1 (by simp) rfl
      rw [List.forall_mem_cons] at h
      refine readSchemaMap_cons_eq_ok_iff.mpr ⟨rfl, e.2.reread, h.1, ?_⟩
      have hput : Entries.put e.1 e.2.reread done = done ++ [(e.1, e.2.reread)] :=
        Entries.put_of_not_mem _ hfresh
      have hrest := @ih (done ++ [(e.1, e.2.reread)]) (by simpa using hnames) h.2
      simp only [Value.keyText, hput]
      rw [hrest]
      simp

theorem readField_schemaMap_documents {field : Text} {ss : Entries Schema}
    (hnames : (Entries.names ss).Nodup)
    (h : ∀ e ∈ ss, readSchema? e.2.document = some (.ok e.2.reread)) :
    readField field .schemaMap (.ofEntries (ss.map fun e => (e.1, e.2.document))) =
      .ok (.schemaMap (ss.map fun e => (e.1, e.2.reread))) := by
  have hmap := @readSchemaMap_documents field [] ss (by simpa using hnames) h
  refine readField_schemaMap_eq_ok_iff.mpr ⟨_, _, rfl, ?_, rfl⟩
  simpa [Function.comp_def] using hmap

/-! ## Extra fields -/

/-- An extra field is read back as what it was, once the schemas in it are. -/
theorem readField_extraDocument {field : Text} {shape : Shape} {v : Value} (hv : shape.Keeps v)
    (h : ∀ t, v.Holds t → readSchema? t.document = some (.ok t.reread)) :
    ∃ c, readField field shape (extraDocument v) = .ok c ∧
    c.extra = v.mapNodes Schema.reread := by
  cases hv with
  | any hplain =>
      rw [extraDocument_of_isPlain hplain, Value.mapNodes_of_isPlain hplain]
      exact ⟨_, readField_any field v, rfl⟩
  | string s => exact ⟨.string s, rfl, rfl⟩
  | count n =>
      refine ⟨.count n, readField_count_eq_ok_iff.mpr ⟨n, ?_, rfl⟩, rfl⟩
      simp [extraDocument, Value.untied, count?]
  | bool b => exact ⟨.bool b, rfl, rfl⟩
  | schema s =>
      exact ⟨_, readField_schema_eq_ok_iff.mpr ⟨s.reread, h s (.schema s), rfl⟩, rfl⟩
  | schemas ss =>
      rw [extraDocument_list_schemas, Value.mapNodes_list_schemas]
      exact ⟨_, readSchemas_documents fun t ht => h t (by simpa using ht), rfl⟩
  | @schemaMap ss hnames =>
      rw [extraDocument_map_schemas, Value.mapNodes_map_schemas]
      have hnested : ∀ e ∈ ss, readSchema? e.2.document = some (.ok e.2.reread) := by
        intro e he
        exact h e.2 (Value.holds_ofEntries_map_schema_iff.mpr ⟨e.1, he⟩)
      exact ⟨_, readField_schemaMap_documents hnames hnested, rfl⟩

theorem readEntries_extras {s : Schema} {extras : Entries Value}
    (hnames : (Entries.names (s.extras ++ extras)).Nodup)
    (hextras : ∀ e ∈ extras, e.1 ∉ ownFieldNames ∧ ∃ shape c, Shape.ofField? e.1 = some shape ∧
      readField e.1 shape (extraDocument e.2) = .ok c ∧ c.extra = e.2.mapNodes Schema.reread) :
    readEntries s (extras.map fun e => (e.1, extraDocument e.2)) =
      .ok { s with extras := s.extras ++ extras.map fun e =>
        (e.1, e.2.mapNodes Schema.reread) } := by
  induction extras generalizing s with
  | nil =>
      cases s
      simp
  | cons e rest ih =>
      rw [List.forall_mem_cons] at hextras
      obtain ⟨⟨hown, shape, c, hshape, hread, hc⟩, hrest⟩ := hextras
      have hfresh : e.1 ∉ Entries.names s.extras := by
        intro hmem
        rw [Entries.names_append, List.nodup_append] at hnames
        exact hnames.2.2 e.1 hmem e.1 (by simp) rfl
      rw [List.map_cons, readEntries_cons hshape hread, assign_of_not_own s c hown, hc,
        Entries.put_of_not_mem _ hfresh, ih ?_ hrest]
      · simp
      · simpa using hnames

/-! ## Own fields -/

theorem readField_additionalDocument {a : Additional}
    (h : ∀ t, a = .schema t → readSchema? t.document = some (.ok t.reread)) :
    readField "additionalProperties" .schemaOrBool a.document =
      .ok (.additional (a.map Schema.reread)) := by
  cases a with
  | forbidden => rfl
  | schema t => exact readField_schemaOrBool_eq_ok_iff.mpr (.inr ⟨_, h t rfl, rfl⟩)

theorem nonNull_enumDocument {v : Value} (hv : v ≠ .null) :
    (enumDocument v).nonNull = some (enumDocument v) := by
  have hdocument : enumDocument v ≠ .null := by
    rw [enumDocument]
    split <;> simp_all
  cases hw : enumDocument v <;> first | rfl | exact absurd hw hdocument

section Places

variable {s : Schema}

theorem readEntries_type (htype : s.type = []) (type : Text) :
    readEntries s (if type.isEmpty then [] else [documentField "type" (.text type)]) =
      .ok { s with type } := by
  cases type with
  | nil =>
      cases s
      simp_all
  | cons c rest =>
      exact readEntries_documentField (by decide)
        (readField_string_eq_ok_iff.mpr ⟨c :: rest, rfl, rfl⟩)

theorem readEntries_description (hdescription : s.description = []) (description : Text) :
    readEntries s (if description.isEmpty then []
      else [documentField "description" (.text description)]) = .ok { s with description } := by
  cases description with
  | nil =>
      cases s
      simp_all
  | cons c rest =>
      exact readEntries_documentField (by decide)
        (readField_string_eq_ok_iff.mpr ⟨c :: rest, rfl, rfl⟩)

theorem readEntries_enum (henum : s.enum = none) {enum : Option Value}
    (hnull : enum ≠ some .null) :
    readEntries s (enum.map fun v => documentField "enum" (enumDocument v)).toList =
      .ok { s with enum := enum.map enumDocument } := by
  cases enum with
  | none =>
      cases s
      simp_all
  | some v =>
      have hv : v ≠ .null := fun heq => hnull (by rw [heq])
      refine (readEntries_documentField (by decide) (readField_any _ _)).trans ?_
      simp [Schema.assign, nonNull_enumDocument hv]

theorem readEntries_properties (hproperties : s.properties = none)
    {properties : Option (Entries Schema)}
    (hnames : ∀ ps, properties = some ps → (Entries.names ps).Nodup)
    (h : ∀ ps, properties = some ps →
      ∀ e ∈ ps, readSchema? e.2.document = some (.ok e.2.reread)) :
    readEntries s (properties.map fun ps => documentField "properties"
        (.ofEntries (propertyDocuments ps))).toList =
      .ok { s with
        properties := properties.map fun ps => ps.map fun e => (e.1, e.2.reread) } := by
  cases properties with
  | none =>
      cases s
      simp_all
  | some ps =>
      have hread := @readField_schemaMap_documents "properties" ps (hnames ps rfl) (h ps rfl)
      rw [← propertyDocuments_eq] at hread
      exact readEntries_documentField (by decide) hread

theorem readEntries_items (hitems : s.items = none) {items : Option Schema}
    (h : ∀ t, items = some t → readSchema? t.document = some (.ok t.reread)) :
    readEntries s (items.map fun t => documentField "items" t.document).toList =
      .ok { s with items := items.map Schema.reread } := by
  cases items with
  | none =>
      cases s
      simp_all
  | some t =>
      exact readEntries_documentField (by decide)
        (readField_schema_eq_ok_iff.mpr ⟨_, h t rfl, rfl⟩)

theorem readEntries_required (hrequired : s.required = []) (required : List Text) :
    readEntries s (if required.isEmpty then []
      else [documentField "required" (.list (required.map .text))]) =
      .ok { s with required } := by
  cases required with
  | nil =>
      cases s
      simp_all
  | cons name rest =>
      exact readEntries_documentField (by decide)
        (readField_strings_eq_ok_iff.mpr ⟨name :: rest, rfl, rfl⟩)

theorem readEntries_additional (hadditional : s.additional = none)
    {additional : Option Additional}
    (h : ∀ t, additional = some (.schema t) → readSchema? t.document = some (.ok t.reread)) :
    readEntries s (additional.map fun a =>
      documentField "additionalProperties" a.document).toList =
      .ok { s with additional := additional.map (Additional.map Schema.reread) } := by
  cases additional with
  | none =>
      cases s
      simp_all
  | some a =>
      exact readEntries_documentField (by decide)
        (readField_additionalDocument fun t ht => h t (by rw [ht]))

end Places

/-- The own fields of a schema are read back into the places that they came from. -/
theorem readEntries_ownFields {s : Schema} (hs : s.WellFormed)
    (h : ∀ t, s.Child t → readSchema? t.document = some (.ok t.reread)) :
    readEntries {} s.ownFields = .ok { s.reread with extras := [] } := by
  have hproperties : ∀ ps, s.properties = some ps →
      ∀ e ∈ ps, readSchema? e.2.document = some (.ok e.2.reread) :=
    fun ps hps e he => h e.2 (.property hps he)
  have htype := readEntries_type (s := {}) rfl s.type
  have hdescription := (readEntries_append _ htype).trans
    (readEntries_description rfl s.description)
  have henum := (readEntries_append _ hdescription).trans (readEntries_enum rfl hs.enum)
  have hprops := (readEntries_append _ henum).trans
    (readEntries_properties rfl hs.properties hproperties)
  have hitems := (readEntries_append _ hprops).trans
    (readEntries_items rfl fun t ht => h t (.items ht))
  have hrequired := (readEntries_append _ hitems).trans (readEntries_required rfl s.required)
  have hadditional := (readEntries_append _ hrequired).trans
    (readEntries_additional rfl fun t ht => h t (.additional ht))
  rw [Schema.reread, mapEnums_eq]
  exact hadditional

/-- A well-formed schema is read back from its document, with its allowed values copied. -/
theorem readSchema?_document {s : Schema} (hs : s.Everywhere Schema.WellFormed) :
    readSchema? s.document = some (.ok s.reread) := by
  induction s using Schema.byChildren with
  | step s ih =>
      have hchild : ∀ t, s.Child t → readSchema? t.document = some (.ok t.reread) :=
        fun t ht => ih t ht (hs.child ht)
      have hextras : ∀ e ∈ s.extras, e.1 ∉ ownFieldNames ∧ ∃ shape c,
          Shape.ofField? e.1 = some shape ∧ readField e.1 shape (extraDocument e.2) = .ok c ∧
          c.extra = e.2.mapNodes Schema.reread := by
        intro e he
        obtain ⟨shape, hshape, hkeeps⟩ := hs.here.extras e.1 e.2 he
        obtain ⟨c, hread, hc⟩ := @readField_extraDocument e.1 shape e.2 hkeeps
          fun t ht => hchild t (.extra he ht)
        exact ⟨hs.here.notOwn e.1 (Entries.mem_names_of_mem he), shape, c, hshape, hread, hc⟩
      have hown := readEntries_ownFields hs.here hchild
      rw [document_eq_ofEntries_fields hs.here, Value.ofEntries, readSchema?_map]
      refine congrArg some ((readEntries_append _ hown).trans ?_)
      rw [readEntries_extras (by simpa using hs.here.names) hextras]
      rw [Schema.reread, mapEnums_eq]
      simp [Schema.mapChildren]

end TerseSchema
