import TerseSchema.Proofs.Field.Conformity
import TerseSchema.Proofs.Schema.Document
/-!
# Documents recoded

What a document has become once it has been read as a schema and written again. No field is
lost that says something and none is invented, and the value of each is what its shape makes
of it: the same value, or the schemas in it recoded in their turn. Only the order of the
fields is the library's own.
-/

namespace TerseSchema

/-! ## Fields that are kept -/

/-- Whether a field says no more than if it were not there. -/
def saysNothing (field : Text) (v : Value) : Bool :=
  if field = "type" ∨ field = "description" then
    match v.untied with
    | .text s => s.isEmpty
    | _ => false
  else if field = "enum" then v.nonNull.isNone
  else if field = "required" then v.items?.any List.isEmpty
  else false

theorem saysNothing_enum (v : Value) : saysNothing "enum" v = v.nonNull.isNone := by
  simp [saysNothing, Text.ofString_inj]

theorem saysNothing_required (v : Value) :
    saysNothing "required" v = v.items?.any List.isEmpty := by
  simp [saysNothing, Text.ofString_inj]

def spoken : List (Value × Value) → List Text
  | [] => []
  | (.text field, v) :: rest => if saysNothing field v then spoken rest else field :: spoken rest
  | _ :: rest => spoken rest

/-- Fields in the order of documents: first those that a schema has places of its own for. -/
def arranged (fields : List Text) : List Text :=
  ownFieldNames.filter fields.contains ++ fields.filter (!ownFieldNames.contains ·)

/-- What a value of a shape is recoded as. -/
inductive Recodes : Shape → Value → Value → Prop where
  | any (v : Value) : Recodes .any v v
  | string {v : Value} {s : Text} (h : v.untied = .text s) : Recodes .string v (.text s)
  | bool {v : Value} {b : Bool} (h : v.untied = .bool b) : Recodes .bool v (.bool b)
  | integer {v : Value} {n : Int} (h : v.untied = .int n) : Recodes .count v (.int n)
  | whole {v : Value} {x : Binary64} {n : Int} (h : v.untied = .float x)
      (hx : x.toInt? = some n) :
      Recodes .count v (.int n)
  | strings {v : Value} {items : List Value} (h : v.items? = some items) :
      Recodes .strings v (.list items)
  /-- Allowed values in a tuple become those in a list; all other fields are
  as their shape tells. -/
  | schema {v : Value} {entries : List (Value × Value)} {fields : Entries Value}
      (h : v.untied = .map entries) (hnames : Entries.names fields = arranged (spoken entries))
      (hlist : ∀ w items u, (.text "enum", w) ∈ entries → w.items? = some items →
        Entries.get? "enum" fields = some u → u = .list items)
      (hother : ∀ w u, (.text "enum", w) ∈ entries → w.items? = none →
        Entries.get? "enum" fields = some u → u = w)
      (hvalues : ∀ (field : Text) shape w u, field ≠ "enum" → Shape.ofField? field = some shape →
        (.text field, w) ∈ entries → Entries.get? field fields = some u → Recodes shape w u) :
      Recodes .schema v (.ofEntries fields)
  | schemas {v : Value} {items documents : List Value} (h : v.items? = some items)
      (hitems : List.Forall₂ (Recodes .schema) items documents) :
      Recodes .schemas v (.list documents)
  | schemaMap {v : Value} {entries : List (Value × Value)} {documents : Entries Value}
      (h : v.untied = .map entries)
      (hkeys : entries.map Prod.fst = (Entries.names documents).map .text)
      (hvalues : List.Forall₂ (Recodes .schema) (entries.map Prod.snd)
        (documents.map Prod.snd)) :
      Recodes .schemaMap v (.ofEntries documents)
  | falsity {v : Value} (h : v.untied = .bool false) : Recodes .schemaOrBool v (.bool false)
  | truth {v : Value} (h : v.untied = .bool true) : Recodes .schemaOrBool v (.map [])
  | described {v document : Value} (h : Recodes .schema v document) :
      Recodes .schemaOrBool v document

/-! ## Entries -/

namespace Entries

variable {α β : Type}

def pick (f : Text → α → Option β) (es : Entries α) : Entries β :=
  es.filterMap fun e => (f e.1 e.2).map fun b => (e.1, b)

theorem names_pick_sublist (f : Text → α → Option β) (es : Entries α) :
    (names (pick f es)).Sublist (names es) := by
  induction es with
  | nil => exact .slnil
  | cons e rest ih =>
      cases hf : f e.1 e.2 with
      | none => simpa [pick, hf] using ih.cons e.1
      | some b => simpa [pick, hf] using ih.cons_cons e.1

theorem get?_pick {name : Text} {f : Text → α → Option β} {es : Entries α}
    (h : (names es).Nodup) : get? name (pick f es) = (get? name es).bind (f name) := by
  induction es with
  | nil => rfl
  | cons e rest ih =>
      obtain ⟨k, v⟩ := e
      rw [names_cons, List.nodup_cons] at h
      have hrest := ih h.2
      by_cases hk : k = name
      · subst hk
        have hnone : get? k (pick f rest) = none :=
          get?_eq_none_iff.mpr fun hmem => h.1 ((names_pick_sublist f rest).subset hmem)
        cases hf : f k v with
        | none => simpa [pick, get?, hf] using hnone
        | some b => simp [pick, get?, hf]
      · cases hf : f k v with
        | none => simpa [pick, get?, hf, hk] using hrest
        | some b => simpa [pick, get?, hf, hk] using hrest

end Entries

/-! ## Contents -/

def Content.document : Content → Value
  | .any v => v
  | .string s => .text s
  | .count n => .int n
  | .bool b => .bool b
  | .strings texts => .list (texts.map .text)
  | .schema s => s.document
  | .schemas ss => .list (ss.map Schema.document)
  | .schemaMap ss => .ofEntries (ss.map fun e => (e.1, e.2.document))
  | .additional a => a.document

/-- What the document of a schema has under a field with a content, if anything. -/
def Content.said? (field : Text) (c : Content) : Option Value :=
  if saysNothing field c.document then none
  else some (if field = "enum" then enumDocument c.document else c.document)

theorem extraDocument_extra {c : Content} (hplain : ∀ v, c = .any v → v.isPlain = true)
    (hshape : c.shape ≠ .schemaOrBool) : extraDocument c.extra = c.document := by
  cases c with
  | any v => exact extraDocument_of_isPlain (hplain v rfl)
  | string s => rfl
  | count n => rfl
  | bool b => rfl
  | strings texts =>
      apply extraDocument_of_isPlain
      rw [Content.extra, Value.isPlain_list_iff]
      simp [Value.isPlain]
  | schema s => rfl
  | schemas ss => exact extraDocument_list_schemas ss
  | schemaMap ss => exact extraDocument_map_schemas ss
  | additional a => exact absurd rfl hshape

theorem saysNothing_of_not_own {field : Text} (v : Value) (h : field ∉ ownFieldNames) :
    saysNothing field v = false := by
  simp only [ownFieldNames, List.mem_cons, not_or] at h
  simp [saysNothing, h]

theorem said?_of_not_own {field : Text} (c : Content) (h : field ∉ ownFieldNames) :
    c.said? field = some c.document := by
  rw [Content.said?, saysNothing_of_not_own _ h]
  simp only [ownFieldNames, List.mem_cons, not_or] at h
  simp [h]

theorem said?_string {field : Text} (h : field = "type" ∨ field = "description") (s : Text) :
    (Content.string s).said? field = if s.isEmpty then none else some (.text s) := by
  have henum : field ≠ "enum" := by rcases h with rfl | rfl <;> decide
  simp [Content.said?, saysNothing, h, henum, Content.document, Value.untied]

theorem said?_enum (v : Value) : (Content.any v).said? "enum" = v.nonNull.map enumDocument := by
  rw [Content.said?, saysNothing_enum]
  cases v <;> rfl

theorem said?_required (names : List Text) : (Content.strings names).said? "required" =
    if names.isEmpty then none else some (.list (names.map .text)) := by
  simp [Content.said?, saysNothing_required, Content.document, Text.ofString_inj]

theorem said?_of_structure {field : Text} (c : Content)
    (h : field ∈ (["properties", "items", "additionalProperties"] : List Text)) :
    c.said? field = some c.document := by
  simp only [List.mem_cons, List.not_mem_nil, or_false] at h
  rcases h with rfl | rfl | rfl <;> simp [Content.said?, saysNothing, Text.ofString_inj]

/-- The content of a field whose shape is known. -/
theorem EntryReads.shape_eq {e : Value × Value} {field : Text} {c : Content} {shape : Shape}
    (h : EntryReads e (field, c)) (hshape : Shape.ofField? field = some shape) :
    c.shape = shape :=
  Option.some.inj (h.2.1.symm.trans hshape)

/-- A field says in a document what is read from it, if anything. -/
theorem saysNothing_document {k v : Value} {field : Text} {c : Content}
    (h : EntryReads (k, v) (field, c)) : saysNothing field c.document = saysNothing field v := by
  have hread := h.2.2
  simp only at hread
  by_cases htext : field = "type" ∨ field = "description"
  · have hshape : c.shape = .string := by
      rcases htext with rfl | rfl
      · exact h.shape_eq ofField?_type
      · exact h.shape_eq ofField?_description
    rw [hshape] at hread
    obtain ⟨s, hv, rfl⟩ := readField_string_eq_ok_iff.mp hread
    simp [saysNothing, htext, Content.document, hv, Value.untied]
  by_cases henum : field = "enum"
  · subst henum
    have hshape : c.shape = .any := h.shape_eq ofField?_enum
    rw [hshape, readField_any, Except.ok.injEq] at hread
    rw [← hread, Content.document]
  by_cases hrequired : field = "required"
  · subst hrequired
    have hshape : c.shape = .strings := h.shape_eq ofField?_required
    rw [hshape] at hread
    obtain ⟨texts, hv, rfl⟩ := readField_strings_eq_ok_iff.mp hread
    simp [saysNothing_required, Content.document, hv]
  · simp [saysNothing, htext, henum, hrequired]

/-! ## Arrangement -/

def arrangedEntries {α : Type} (es : Entries α) : Entries α :=
  ownFieldNames.flatMap (fun name => ((Entries.get? name es).map fun a => (name, a)).toList) ++
    es.filter (!ownFieldNames.contains ·.1)

theorem names_arrangedEntries {α : Type} (es : Entries α) :
    Entries.names (arrangedEntries es) = arranged (Entries.names es) := by
  have hown : ∀ names : List Text,
      Entries.names (names.flatMap fun name =>
        ((Entries.get? name es).map fun a => (name, a)).toList) =
        names.filter (Entries.names es).contains := by
    intro names
    induction names with
    | nil => rfl
    | cons name rest ih =>
        rw [List.flatMap_cons, Entries.names_append, ih]
        cases hget : Entries.get? name es with
        | none =>
            have hnot := Entries.get?_eq_none_iff.mp hget
            simp [hnot]
        | some a =>
            have hmem := Entries.mem_names_of_mem (Entries.mem_of_get? hget)
            simp [hmem]
  rw [arrangedEntries, Entries.names_append, hown, arranged, Entries.names, Entries.names,
    List.filter_map]
  rfl

theorem mem_of_mem_arrangedEntries {α : Type} {e : Text × α} {es : Entries α}
    (h : e ∈ arrangedEntries es) : e ∈ es := by
  rcases List.mem_append.mp h with hown | hother
  · obtain ⟨name, -, hname⟩ := List.mem_flatMap.mp hown
    rw [Option.mem_toList] at hname
    obtain ⟨a, hget, rfl⟩ := Option.map_eq_some_iff.mp hname
    exact Entries.mem_of_get? hget
  · exact List.mem_of_mem_filter hother

/-! ## The fields of a schema -/

theorem spoken_eq_names_pick {entries : List (Value × Value)} {contents : Entries Content}
    (h : List.Forall₂ EntryReads entries contents) :
    spoken entries = Entries.names (Entries.pick Content.said? contents) := by
  induction h with
  | nil => rfl
  | @cons e read entries contents hread _ ih =>
      obtain ⟨k, v⟩ := e
      obtain ⟨field, c⟩ := read
      have hsaid := saysNothing_document hread
      obtain rfl : k = .text field := hread.1
      cases hnothing : saysNothing field v with
      | true => simpa [spoken, Entries.pick, Content.said?, hsaid, hnothing] using ih
      | false => simpa [spoken, Entries.pick, Content.said?, hsaid, hnothing] using ih

theorem fields_extras_eq {contents : Entries Content}
    (hshapes : ∀ e ∈ contents, Shape.ofField? e.1 = some e.2.shape)
    (hplain : ∀ e ∈ contents, ∀ v, e.2 = .any v → v.isPlain = true) :
    ((contents.filter fun e => e.1 ∉ ownFieldNames).map fun e =>
      (e.1, extraDocument e.2.extra)) =
      (Entries.pick Content.said? contents).filter (!ownFieldNames.contains ·.1) := by
  induction contents with
  | nil => rfl
  | cons e rest ih =>
      rw [List.forall_mem_cons] at hshapes hplain
      have hrest := ih hshapes.2 hplain.2
      obtain ⟨field, c⟩ := e
      by_cases hown : field ∈ ownFieldNames
      · cases hsaid : c.said? field with
        | none => simpa [Entries.pick, hown, hsaid] using hrest
        | some w => simpa [Entries.pick, hown, hsaid] using hrest
      · have htable := (shape_of_not_own _ (Entries.mem_of_get? hshapes.1) hown).2
        have hdocument := extraDocument_extra hplain.1 htable
        simpa [Entries.pick, hown, said?_of_not_own c hown, hdocument] using hrest

theorem shape_of_get? {contents : Entries Content} {field : Text} {c : Content} {shape : Shape}
    (hshapes : ∀ e ∈ contents, Shape.ofField? e.1 = some e.2.shape)
    (hget : Entries.get? field contents = some c) (hshape : Shape.ofField? field = some shape) :
    c.shape = shape :=
  Option.some.inj ((hshapes _ (Entries.mem_of_get? hget)).symm.trans hshape)

/-! What the place of a field tells is what its content says, if it has one. -/

section

variable {place : Option Content}

theorem textField_eq {field : String}
    (hfield : (field : Text) = "type" ∨ (field : Text) = "description")
    (hshape : ∀ c, place = some c → c.shape = .string) :
    (if ((place.bind Content.text?).getD []).isEmpty then []
      else [documentField field (.text ((place.bind Content.text?).getD []))]) =
      ((place.bind (Content.said? field)).map fun w => ((field : Text), w)).toList := by
  cases place with
  | none => rfl
  | some c =>
      cases c <;> cases hshape _ rfl
      next text => cases text <;> simp [Content.text?, said?_string hfield, documentField]

theorem enumField_eq (hshape : ∀ c, place = some c → c.shape = .any) :
    ((place.bind Content.allowed?).map fun v => documentField "enum" (enumDocument v)).toList =
      ((place.bind (Content.said? "enum")).map fun w => (("enum" : Text), w)).toList := by
  cases place with
  | none => rfl
  | some c =>
      cases c <;> cases hshape _ rfl
      next v => cases v <;> simp [Content.allowed?, said?_enum, documentField, Value.nonNull]

theorem requiredField_eq (hshape : ∀ c, place = some c → c.shape = .strings) :
    (if ((place.bind Content.names?).getD []).isEmpty then []
      else [documentField "required"
        (.list (((place.bind Content.names?).getD []).map .text))]) =
      ((place.bind (Content.said? "required")).map fun w =>
        (("required" : Text), w)).toList := by
  cases place with
  | none => rfl
  | some c =>
      cases c <;> cases hshape _ rfl
      next names => cases names <;> simp [Content.names?, said?_required, documentField]

/-- A field whose content is a schema, or schemas under names, always says something. -/
theorem structureField_eq {α : Type} {field : String} {shape : Shape}
    {read? : Content → Option α} {document : α → Value}
    (hfield : (field : Text) ∈ (["properties", "items", "additionalProperties"] : List Text))
    (hshape : ∀ c, place = some c → c.shape = shape)
    (hread : ∀ c, c.shape = shape → (read? c).map document = some c.document) :
    ((place.bind read?).map fun a => documentField field (document a)).toList =
      ((place.bind (Content.said? field)).map fun w => ((field : Text), w)).toList := by
  cases place with
  | none => rfl
  | some c =>
      obtain ⟨a, ha, hdocument⟩ := Option.map_eq_some_iff.mp (hread c (hshape c rfl))
      simp [ha, hdocument, said?_of_structure c hfield, documentField]

end

/-- The places of a schema, in the order of documents, tell what the
contents of their fields say. -/
theorem ownFields_eq {s : Schema} {contents : Entries Content} (hs : s.Gathers contents)
    (hshapes : ∀ e ∈ contents, Shape.ofField? e.1 = some e.2.shape) :
    s.ownFields = ownFieldNames.flatMap fun name =>
      (((Entries.get? name contents).bind (Content.said? name)).map fun w =>
        (name, w)).toList := by
  have hshape : ∀ {name shape}, Shape.ofField? name = some shape →
      ∀ c, Entries.get? name contents = some c → c.shape = shape :=
    fun hfield c hget => shape_of_get? hshapes hget hfield
  have hproperties : ∀ c : Content, c.shape = .schemaMap →
      (c.properties?.map fun ps => Value.ofEntries (propertyDocuments ps)) =
        some c.document := by
    rintro (_ | _) ⟨⟩
    simp [Content.properties?, Content.document, propertyDocuments_eq]
  have hitem :
      ∀ c : Content, c.shape = .schema → c.item?.map Schema.document = some c.document := by
    rintro (_ | _) ⟨⟩
    rfl
  have hadditional : ∀ c : Content, c.shape = .schemaOrBool →
      c.additional?.map Additional.document = some c.document := by
    rintro (_ | _) ⟨⟩
    rfl
  simp only [Schema.ownFields, ownFieldNames, List.flatMap_cons, List.flatMap_nil,
    List.append_nil, List.append_assoc]
  rw [hs.type, hs.description, hs.enum, hs.properties, hs.items, hs.required, hs.additional,
    textField_eq (.inl rfl) (hshape ofField?_type),
    textField_eq (.inr rfl) (hshape ofField?_description), enumField_eq (hshape ofField?_enum),
    structureField_eq (by simp) (hshape ofField?_properties) hproperties,
    structureField_eq (by simp) (hshape ofField?_items) hitem,
    requiredField_eq (hshape ofField?_required),
    structureField_eq (by simp) (hshape ofField?_additionalProperties) hadditional]

theorem fields_eq_arrangedEntries {s : Schema} {contents : Entries Content}
    (hs : s.Gathers contents) (hnames : (Entries.names contents).Nodup)
    (hshapes : ∀ e ∈ contents, Shape.ofField? e.1 = some e.2.shape)
    (hplain : ∀ e ∈ contents, ∀ v, e.2 = .any v → v.isPlain = true) :
    s.fields = arrangedEntries (Entries.pick Content.said? contents) := by
  rw [Schema.fields, ownFields_eq hs hshapes, hs.extras, List.map_map, arrangedEntries]
  simp only [Entries.get?_pick hnames]
  exact congrArg _ (fields_extras_eq hshapes hplain)

/-! ## Documents -/

theorem enumDocument_of_items? {v : Value} {items : List Value} (h : v.items? = some items) :
    enumDocument v = .list items := by
  rw [Value.items?] at h
  rw [enumDocument]
  split at h <;> simp_all

theorem enumDocument_of_no_items {v : Value} (h : v.items? = none) : enumDocument v = v := by
  rw [Value.items?] at h
  rw [enumDocument]
  split at h <;> simp_all

theorem eq_enumDocument_of_said? {k w u : Value} {c : Content}
    (h : EntryReads (k, w) ("enum", c)) (hsaid : c.said? "enum" = some u) :
    u = enumDocument w := by
  have hshape : c.shape = .any := h.shape_eq ofField?_enum
  have hread := h.2.2
  simp only [hshape, readField_any, Except.ok.injEq] at hread
  rw [← hread, said?_enum] at hsaid
  obtain ⟨v, hv, rfl⟩ := Option.map_eq_some_iff.mp hsaid
  cases w <;> cases hv <;> rfl

theorem eq_document_of_said? {field : Text} {u : Value} {c : Content} (hfield : field ≠ "enum")
    (hsaid : c.said? field = some u) : u = c.document := by
  rw [Content.said?, if_neg hfield] at hsaid
  split at hsaid
  · cases hsaid
  · exact (Option.some.inj hsaid).symm

/-- A document whose values are recoded is recoded by the document of its schema. -/
theorem recodes_document_of_values {v : Value} {entries : List (Value × Value)} {s : Schema}
    (hplain : (Value.map entries).isPlain = true) (hmap : v.untied = .map entries)
    (h : readFields {} entries = .ok s)
    (hvalues : ∀ field c w, (.text field, w) ∈ entries → EntryReads (.text field, w) (field, c) →
      Recodes c.shape w c.document) : Recodes .schema v s.document := by
  obtain ⟨hkeys, hparts⟩ := Value.isPlain_map_iff.mp hplain
  obtain ⟨contents, hreads, hnames, hs⟩ := exists_gathers_of_readFields hkeys h
  have hanys : ∀ e ∈ contents, ∀ w, e.2 = .any w → w.isPlain = true := by
    rintro ⟨field, c⟩ he w rfl
    obtain ⟨e, hmem, -, -, hread⟩ := exists_left_of_forall₂ hreads he
    have hw : Content.any e.2 = .any w :=
      Except.ok.inj ((readField_any field e.2).symm.trans hread)
    exact Content.any.inj hw ▸ hparts e hmem
  have hfields := fields_eq_arrangedEntries hs hnames
    (fun e he => ofField?_of_entryReads hreads he) hanys
  have hpick : (Entries.names (Entries.pick Content.said? contents)).Nodup :=
    (Entries.names_pick_sublist _ _).nodup hnames
  -- What stands under a field of the document is what the content of that field says.
  have hstands : ∀ field w u, (.text field, w) ∈ entries → Entries.get? field s.fields = some u →
      ∃ c, EntryReads (.text field, w) (field, c) ∧ c.said? field = some u := by
    intro field w u hmem hget
    rw [hfields] at hget
    have hpicked := mem_of_mem_arrangedEntries (Entries.mem_of_get? hget)
    rw [← Entries.get?_eq_some_iff hpick, Entries.get?_pick hnames] at hpicked
    obtain ⟨c, hc, hsaid⟩ := Option.bind_eq_some_iff.mp hpicked
    obtain ⟨⟨other, d⟩, hd, hread⟩ := exists_right_of_forall₂ hreads hmem
    obtain rfl : field = other := Value.text.inj hread.1
    rw [← Entries.get?_eq_some_iff hnames, hc] at hd
    cases hd
    exact ⟨c, hread, hsaid⟩
  rw [document_eq_ofEntries_fields (everywhere_wellFormed_ofFields hplain h).here]
  refine .schema hmap ?_ ?_ ?_ ?_
  · rw [hfields, names_arrangedEntries, spoken_eq_names_pick hreads]
  · intro w items u hmem hitems hget
    obtain ⟨c, hread, hsaid⟩ := hstands _ w u hmem hget
    rw [eq_enumDocument_of_said? hread hsaid, enumDocument_of_items? hitems]
  · intro w u hmem hitems hget
    obtain ⟨c, hread, hsaid⟩ := hstands _ w u hmem hget
    rw [eq_enumDocument_of_said? hread hsaid, enumDocument_of_no_items hitems]
  · intro field shape w u hfield hshape hmem hget
    obtain ⟨c, hread, hsaid⟩ := hstands field w u hmem hget
    rw [eq_document_of_said? hfield hsaid, ← hread.shape_eq hshape]
    exact hvalues field c w hmem hread

theorem recodes_count {v : Value} {n : Nat} (h : count? v.untied = .ok n) :
    Recodes .count v (.int n) := by
  cases hv : v.untied with
  | int m =>
      rw [hv, count?] at h
      split at h
      · next hm =>
          obtain rfl := Except.ok.inj h
          rw [Int.toNat_of_nonneg hm]
          exact .integer hv
      · cases h
  | float x =>
      rw [hv, count?] at h
      cases hx : x.toInt? with
      | none => simp [hx] at h
      | some m =>
          simp only [hx] at h
          split at h
          · next hm =>
              obtain rfl := Except.ok.inj h
              rw [Int.toNat_of_nonneg hm]
              exact .whole hv hx
          · cases h
  | _ => simp [hv, count?] at h

/-! ## Nested schemas -/

/-- Whatever is read from a value is recoded from it. -/
def IsRecoded (v : Value) : Prop :=
  ∀ field shape c, Conforms Value.IsText shape v → readField field shape v = .ok c →
    Recodes shape v c.document

section

variable {v : Value} {items : List Value} {entries : List (Value × Value)} {s : Schema}

theorem IsRecoded.schema (h : IsRecoded v) (hkeys : Conforms Value.IsText .schema v)
    (hread : readSchema? v = some (.ok s)) : Recodes .schema v s.document :=
  h [] .schema (.schema s) hkeys (readField_schema_eq_ok_iff.mpr ⟨s, hread, rfl⟩)

theorem recodes_schema (hplain : v.isPlain = true) (hmap : v.untied = .map entries)
    (hvalues : ∀ e ∈ entries, IsRecoded e.2) (hkeys : Conforms Value.IsText .schema v)
    (hread : readFields {} entries = .ok s) : Recodes .schema v s.document := by
  have hinside := Value.isPlain_of_untied_map hplain hmap
  refine recodes_document_of_values (Value.isPlain_map_iff.mpr hinside) hmap hread ?_
  intro field c w hmem hreads
  obtain ⟨others, hothers, hfields⟩ := conforms_schema_iff.mp hkeys
  obtain rfl := Value.map.inj (hmap.symm.trans hothers)
  obtain ⟨name, shape, hname, hshape, hconforms⟩ := hfields _ hmem
  obtain rfl := Value.text.inj hname
  rw [← hreads.shape_eq hshape] at hconforms
  exact hvalues _ hmem field c.shape c hconforms hreads.2.2

theorem recodes_schemas {ss : List Schema} (hitems : v.items? = some items)
    (hvalues : ∀ w ∈ items, IsRecoded w) (hkeys : Conforms Value.IsText .schemas v)
    (hss : List.Forall₂ (fun w s => readSchema? w = some (.ok s)) items ss) :
    Recodes .schemas v (.list (ss.map Schema.document)) := by
  obtain ⟨others, hothers, hconforms⟩ := conforms_schemas_iff.mp hkeys
  obtain rfl := Option.some.inj (hitems.symm.trans hothers)
  refine .schemas hitems (List.forall₂_map_right_iff.mpr (forall₂_imp_of_mem hss ?_))
  exact fun w hw s _ hs => (hvalues w hw).schema (hconforms w hw) hs

theorem keys_of_schemaReads {ss : Entries Schema} (h : List.Forall₂ SchemaReads entries ss) :
    entries.map Prod.fst = (Entries.names ss).map .text := by
  induction h with
  | nil => rfl
  | cons hread _ ih => simp [hread.1, ih]

theorem recodes_schemaMap {field : Text} {ss : Entries Schema} (hplain : v.isPlain = true)
    (hmap : v.untied = .map entries) (hvalues : ∀ e ∈ entries, IsRecoded e.2)
    (hkeys : Conforms Value.IsText .schemaMap v)
    (hss : readSchemaMap field [] entries = .ok ss) :
    Recodes .schemaMap v (.ofEntries (ss.map fun e => (e.1, e.2.document))) := by
  obtain ⟨others, hothers, htexts, hconforms⟩ := conforms_schemaMap_iff.mp hkeys
  obtain rfl := Value.map.inj (hmap.symm.trans hothers)
  have hfresh :
      ∀ e ∈ entries, ∃ name, e.1 = .text name ∧ name ∉ Entries.names ([] : Entries Schema) :=
    fun e he => (htexts e he).imp fun _ hname => ⟨hname, by simp⟩
  obtain ⟨read, hreads, rfl⟩ :=
    (readSchemaMap_eq_ok_iff (Value.isPlain_of_untied_map hplain hmap).1 hfresh).mp hss
  refine .schemaMap hmap ?_ ?_
  · rw [Entries.names_map fun e : Text × Schema => e.2.document]
    exact keys_of_schemaReads hreads
  · rw [List.map_map, List.forall₂_map_left_iff, List.forall₂_map_right_iff]
    exact forall₂_imp_of_mem hreads fun e he f _ hread =>
      (hvalues e he).schema (hconforms e he) hread.2

end

/-! ## Main statement -/

/-- What is read from a value is recoded from it, when this is so of its items and entries. -/
theorem isRecoded_of_parts {v : Value} (hplain : v.isPlain = true)
    (hitem : ∀ items, v.items? = some items → ∀ w ∈ items, IsRecoded w)
    (hentry : ∀ entries, v.untied = .map entries → ∀ e ∈ entries, IsRecoded e.2) :
    IsRecoded v := by
  have hschema : ∀ s, Conforms Value.IsText .schema v → readSchema? v = some (.ok s) →
      Recodes .schema v s.document := by
    intro s hkeys hread
    obtain ⟨entries, hmap, hfields⟩ := readSchema?_eq_ok_iff.mp hread
    exact recodes_schema hplain hmap (hentry entries hmap) hkeys hfields
  intro field shape c hkeys h
  cases shape with
  | any =>
      rw [readField_any, Except.ok.injEq] at h
      subst h
      exact .any v
  | string =>
      obtain ⟨s, hv, rfl⟩ := readField_string_eq_ok_iff.mp h
      exact .string hv
  | bool =>
      obtain ⟨b, hv, rfl⟩ := readField_bool_eq_ok_iff.mp h
      exact .bool hv
  | count =>
      obtain ⟨n, hn, rfl⟩ := readField_count_eq_ok_iff.mp h
      exact recodes_count hn
  | strings =>
      obtain ⟨texts, hitems, rfl⟩ := readField_strings_eq_ok_iff.mp h
      exact .strings hitems
  | schema =>
      obtain ⟨s, hs, rfl⟩ := readField_schema_eq_ok_iff.mp h
      exact hschema s hkeys hs
  | schemas =>
      obtain ⟨items, ss, hitems, hss, rfl⟩ := readField_schemas_eq_ok_iff.mp h
      exact recodes_schemas hitems (hitem items hitems) hkeys hss
  | schemaMap =>
      obtain ⟨entries, ss, hmap, hss, rfl⟩ := readField_schemaMap_eq_ok_iff.mp h
      exact recodes_schemaMap hplain hmap (hentry entries hmap) hkeys hss
  | schemaOrBool =>
      rcases readField_schemaOrBool_eq_ok_iff.mp h with ⟨b, hv, rfl⟩ | ⟨s, hs, rfl⟩
      · cases b with
        | false => exact .falsity hv
        | true => exact .truth hv
      · refine .described (hschema s ((conforms_schemaOrBool_iff.mp hkeys).resolve_left ?_) hs)
        rintro ⟨b, hv⟩
        obtain ⟨entries, hmap, -⟩ := readSchema?_eq_ok_iff.mp hs
        cases hmap.symm.trans hv

/-- What is read from a value of plain data is recoded from it. -/
theorem isRecoded {v : Value} (hplain : v.isPlain = true) : IsRecoded v :=
  Value.byPlainContents (fun _ => isRecoded_of_parts) hplain

/-- A document that is read is recoded by the document of its schema: what says something is
kept, each field with what its shape makes of it, and nothing is added. -/
theorem recodes_document_of_ofFields {entries : List (Value × Value)} {s : Schema}
    (hplain : (Value.map entries).isPlain = true)
    (hkeys : Conforms Value.IsText .schema (.map entries))
    (h : Schema.ofFields entries = .ok s) : Recodes .schema (.map entries) s.document := by
  have hread : readSchema? (.map entries) = some (.ok s) := congrArg some h
  exact (isRecoded hplain).schema hkeys hread

def defined : List (Value × Value) :=
  [(.text "$defs", .map [(.text "b", .map [(.text "type", .text "string")])]),
    (.text "enum", .tuple [.null]), (.text "description", .text []),
    (.text "additionalProperties", .bool true)]

def definedSchema : Schema :=
  { enum := some (.tuple [.null]), additional := some (.schema {})
    extras := [("$defs", .ofEntries [("b", .schema { type := "string" })])] }

theorem recodes_document_defined : (Value.map defined).isPlain = true ∧
    Schema.ofFields defined = .ok definedSchema ∧
    Recodes .schema (.map defined) definedSchema.document := by
  have hplain : (Value.map defined).isPlain = true := by decide
  have hread : Schema.ofFields defined = .ok definedSchema := rfl
  have hstring : Conforms Value.IsText .schema (.map [(.text "type", .text "string")]) := by
    refine conforms_schema_iff.mpr ⟨_, rfl, fun e he => ?_⟩
    obtain rfl := List.mem_singleton.mp he
    exact ⟨"type", .string, rfl, ofField?_type, .string rfl⟩
  have hkeys : Conforms Value.IsText .schema (.map defined) := by
    refine conforms_schema_iff.mpr ⟨defined, rfl, ?_⟩
    simp only [defined, List.forall_mem_cons, List.not_mem_nil, false_imp_iff,
      implies_true, and_true]
    refine ⟨⟨_, .schemaMap, rfl, by decide, .schemaMap rfl ?_ ?_⟩,
      ⟨_, .any, rfl, ofField?_enum, .any _⟩,
      ⟨_, .string, rfl, ofField?_description, .string rfl⟩,
      ⟨_, .schemaOrBool, rfl, ofField?_additionalProperties, .truth rfl⟩⟩
    · simp
    · simpa using hstring
  exact ⟨hplain, hread, recodes_document_of_ofFields hplain hkeys hread⟩

def freed : List (Value × Value) := [(.text "required", .tuple [])]

/-- A list without names is not the only way to require nothing: a tuple without
any is not kept either. -/
theorem not_kept_for_freed : ¬∀ entries s, (Value.map entries).isPlain = true →
    Conforms Value.IsText .schema (.map entries) → Schema.ofFields entries = .ok s →
    ∀ (field : Text) v, (.text field, v) ∈ entries →
      ¬((field = "type" ∨ field = "description") ∧ v = .text []) →
      ¬(field = "enum" ∧ v = .null) → ¬(field = "required" ∧ v = .list []) →
      ∃ fields w, s.document = .ofEntries fields ∧ (field, w) ∈ fields := by
  intro h
  have hkeys : Conforms Value.IsText .schema (.map freed) := by
    refine conforms_schema_iff.mpr ⟨freed, rfl, fun e he => ?_⟩
    obtain rfl := List.mem_singleton.mp he
    exact ⟨"required", .strings, rfl, ofField?_required, .strings rfl (by simp)⟩
  obtain ⟨fields, w, hdocument, hmem⟩ := h freed {} (by decide) hkeys rfl "required" (.tuple [])
    (by simp [freed]) (by simp) (by simp) (by simp)
  have hempty : ({} : Schema).document = .map [] := rfl
  rw [hempty, Value.ofEntries, Value.map.injEq, @eq_comm _ [], List.map_eq_nil_iff] at hdocument
  simp [hdocument] at hmem

end TerseSchema
