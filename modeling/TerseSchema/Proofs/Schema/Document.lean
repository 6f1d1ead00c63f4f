import TerseSchema.Schema.Document
import TerseSchema.Proofs.Schema.WellFormed
/-!
# Documents of schemas

The document of a schema as a list of fields: those that the schema has places for, in a fixed
order, and after them the extra fields in theirs. No field is there twice.
-/

namespace TerseSchema

/-! ## Parts -/

theorem propertyDocuments_eq (properties : List (Text × Schema)) :
    propertyDocuments properties = properties.map fun e => (e.1, e.2.document) := by
  induction properties with
  | nil => rfl
  | cons e rest ih => simp [propertyDocuments, ih]

theorem extraDocuments_eq (extras : List (Text × Value)) :
    extraDocuments extras = extras.map fun e => (e.1, extraDocument e.2) := by
  induction extras with
  | nil => rfl
  | cons e rest ih => simp [extraDocuments, ih]

theorem itemDocuments?_map_schema (ss : List Schema) :
    itemDocuments? (ss.map .schema) = some (ss.map Schema.document) := by
  induction ss with
  | nil => rfl
  | cons s rest ih => simp [itemDocuments?, ih]

theorem entryDocuments?_map_schema (ss : List (Text × Schema)) :
    entryDocuments? (ss.map fun e => (.text e.1, .schema e.2)) =
      some (ss.map fun e => (.text e.1, e.2.document)) := by
  induction ss with
  | nil => rfl
  | cons e rest ih => simp [entryDocuments?, ih]

theorem extraDocument_list_schemas (ss : List Schema) :
    extraDocument (.list (ss.map .schema)) = .list (ss.map Schema.document) := by
  simp [extraDocument, itemDocuments?_map_schema]

theorem extraDocument_map_schemas (ss : List (Text × Schema)) :
    extraDocument (.ofEntries (ss.map fun e => (e.1, .schema e.2))) =
      .ofEntries (ss.map fun e => (e.1, e.2.document)) := by
  simp [Value.ofEntries, extraDocument, Function.comp_def, entryDocuments?_map_schema]

theorem extraDocument_of_isPlain {v : Value} (hv : v.isPlain = true) : extraDocument v = v := by
  cases v with
  | list items =>
      cases items with
      | nil => rfl
      | cons item rest =>
          have hitem := Value.isPlain_list_iff.mp hv item List.mem_cons_self
          cases item <;> first | rfl | simp [Value.isPlain] at hitem
  | map entries =>
      cases entries with
      | nil => rfl
      | cons e rest =>
          obtain ⟨k, w⟩ := e
          have hentry := (Value.isPlain_map_iff.mp hv).2 (k, w) List.mem_cons_self
          cases w <;> first | rfl | simp [Value.isPlain] at hentry
  | schema s => simp [Value.isPlain] at hv
  | _ => rfl

/-! ## Fields -/

/-- The fields that a schema has places of its own for, as far as they say something. -/
def Schema.ownFields (s : Schema) : Entries Value :=
  (if s.type.isEmpty then [] else [documentField "type" (.text s.type)]) ++
  (if s.description.isEmpty then [] else [documentField "description" (.text s.description)]) ++
  (s.enum.map fun v => documentField "enum" (enumDocument v)).toList ++
  (s.properties.map fun ps => documentField "properties"
    (.ofEntries (propertyDocuments ps))).toList ++
  (s.items.map fun t => documentField "items" t.document).toList ++
  (if s.required.isEmpty then []
    else [documentField "required" (.list (s.required.map .text))]) ++
  (s.additional.map fun a => documentField "additionalProperties" a.document).toList

def Schema.fields (s : Schema) : Entries Value :=
  s.ownFields ++ s.extras.map fun e => (e.1, extraDocument e.2)

theorem forall_mem_ite_isEmpty_iff {α : Type} {P : Text × Value → Prop} {l : List α}
    {e : Text × Value} : (∀ f ∈ (if l.isEmpty then [] else [e]), P f) ↔ l = [] ∨ P e := by
  cases l <;> simp

theorem forall_mem_map_toList_iff {α : Type} {P : Text × Value → Prop} {o : Option α}
    {f : α → Text × Value} :
    (∀ e ∈ (o.map f).toList, P e) ↔ ∀ a, o = some a → P (f a) := by
  cases o <;> simp

theorem names_ownFields_sublist (s : Schema) :
    (Entries.names s.ownFields).Sublist ownFieldNames := by
  have hif : ∀ (b : Bool) (name : String) (v : Value),
      (Entries.names (if b then [] else [documentField name v])).Sublist [(name : Text)] := by
    intro b name v
    cases b <;> simp [documentField]
  have hoption : ∀ {α : Type} (x : Option α) (name : String) (f : α → Value),
      (Entries.names (x.map fun a => documentField name (f a)).toList).Sublist
      [(name : Text)] := by
    intro α x name f
    cases x <;> simp [documentField]
  simp only [Schema.ownFields, Entries.names_append]
  exact (((((((hif _ _ _).append (hif _ _ _)).append (hoption _ _ _)).append
    (hoption _ _ _)).append (hoption _ _ _)).append (hif _ _ _)).append (hoption _ _ _))

theorem nodup_names_fields {s : Schema} (hs : s.WellFormed) :
    (Entries.names s.fields).Nodup := by
  rw [Schema.fields, Entries.names_append, Entries.names_map (fun e => extraDocument e.2)]
  refine List.nodup_append.mpr ⟨?_, hs.names, ?_⟩
  · exact (names_ownFields_sublist s).nodup (by decide)
  · rintro name hown _ hextra rfl
    exact hs.notOwn name hextra ((names_ownFields_sublist s).subset hown)

theorem document_eq_putAll (s : Schema) :
    s.document = .ofEntries (s.ownFields.putAll (extraDocuments s.extras)) := by
  obtain ⟨type, description, enum, properties, items, required, additional, extras⟩ := s
  cases enum <;> cases properties <;> cases items <;> cases additional <;> rfl

/-- The document of a well-formed schema has its fields as they are. -/
theorem document_eq_ofEntries_fields {s : Schema} (hs : s.WellFormed) :
    s.document = .ofEntries s.fields := by
  have hnames := nodup_names_fields hs
  rw [Schema.fields] at hnames ⊢
  rw [document_eq_putAll, extraDocuments_eq, Entries.putAll_of_nodup hnames]

end TerseSchema
