import TerseSchema.Proofs.Field.Conformity
/-!
# How the mapping of a schema fails

The first entry of a document that fails tells how the document does, and the same holds for the
items of a list of schemas and for the entries of a map of schemas. What came before is read, and
what comes after is not looked at.
-/

namespace TerseSchema

def Converts (entries : List (Value × Value)) : Prop := ∃ s, Schema.ofFields entries = .ok s

def Describes (v : Value) : Prop := ∃ entries, v.untied = .map entries ∧ Converts entries

namespace Shape

/-- Whether a value is of the kind that a shape asks for, whatever it holds. -/
def admits : Shape → Value → Bool
  | .any, _ => true
  | .string, .text _ => true
  | .bool, .bool _ => true
  | .count, .int n => 0 ≤ n
  | .count, .float x => x.toInt?.any (0 ≤ ·)
  | .strings, .list _ => true
  | .strings, .tuple _ => true
  | .schemas, .list _ => true
  | .schemas, .tuple _ => true
  | .schema, .map _ => true
  | .schemaMap, .map _ => true
  | .schemaOrBool, .bool _ => true
  | .schemaOrBool, .map _ => true
  | _, _ => false

/-- The kind that a failure names. Where a count is wanted, a float with a
whole value goes by that. -/
def found : Shape → Value → Kind
  | .count, .float x => if x.toInt?.isSome then .integer else .number
  | _, v => v.kind

end Shape

/-! ## Fields -/

inductive FieldFails (e : Value × Value) : Failure → Prop where
  | unknown (hk : ∀ field shape, e.1 = .text field → Shape.ofField? field ≠ some shape) :
      FieldFails e ⟨.showing e.1 (.unrecognizedField e.1.keyText), []⟩
  | value {field : Text} {shape : Shape} {f : Failure} (hkey : e.1 = .text field)
      (hshape : Shape.ofField? field = some shape) (h : readField field shape e.2 = .error f) :
      FieldFails e f

theorem converts_entry_iff {e : Value × Value} : Converts [e] ↔ ∃ read, EntryReads e read := by
  simp only [Converts, Schema.ofFields, readFields_eq_ok_iff, List.forall₂_cons_left_iff,
    List.forall₂_nil_left_iff]
  constructor
  · rintro ⟨_, _, ⟨read, _, h, _⟩, -⟩
    exact ⟨read, h⟩
  · rintro ⟨read, h⟩
    exact ⟨_, _, ⟨read, [], h, rfl, rfl⟩, rfl⟩

theorem readFields_of_fails {s : Schema} {e : Value × Value} {rest : List (Value × Value)}
    {f : Failure} (h : FieldFails e f) : readFields s (e :: rest) = .error f := by
  obtain ⟨k, u⟩ := e
  cases h with
  | unknown hk =>
      cases k with
      | text field =>
          have hshape : Shape.ofField? field = none :=
            Option.eq_none_iff_forall_ne_some.mpr fun shape => hk field shape rfl
          simp [readFields, hshape, Cause.showing, Value.isWritable, Value.keyText]
      | _ => rfl
  | value hkey hshape h =>
      cases hkey
      simp [readFields, hshape, h, bind, Except.bind]

/-- Whether and how reading fails does not depend on the fields before. -/
theorem readFields_cons_eq_error_iff {s : Schema} {e : Value × Value}
    {rest : List (Value × Value)} {f : Failure} :
    readFields s (e :: rest) = .error f ↔
      FieldFails e f ∨ ∃ read,
      EntryReads e read ∧ readFields (s.assign read.1 read.2) rest = .error f := by
  constructor
  · intro h
    obtain ⟨k, u⟩ := e
    cases k with
    | text field =>
        rw [readFields] at h
        cases hshape : Shape.ofField? field with
        | none =>
            rw [hshape] at h
            cases h
            exact .inl (.unknown fun other shape hkey => by cases hkey; simp [hshape])
        | some shape =>
            rw [hshape] at h
            rcases bind_eq_error_iff.mp h with hread | ⟨c, hread, hrest⟩
            · exact .inl (.value rfl hshape hread)
            · obtain rfl := shape_of_readField hread
              exact .inr ⟨(field, c), ⟨rfl, hshape, hread⟩, hrest⟩
    | _ =>
        simp only [readFields, Except.error.injEq] at h
        exact .inl (h ▸ .unknown fun field shape hkey => by cases hkey)
  · rintro (hfails | ⟨⟨field, c⟩, ⟨hkey, hshape, hread⟩, hrest⟩)
    · exact readFields_of_fails hfails
    · obtain ⟨k, u⟩ := e
      cases hkey
      simp only at hshape hread
      simp [readFields, hshape, hread, bind, Except.bind, hrest]

theorem readFields_error_start {s t : Schema} {entries : List (Value × Value)} {f : Failure}
    (h : readFields s entries = .error f) : readFields t entries = .error f := by
  induction entries generalizing s t with
  | nil => simp [readFields] at h
  | cons e rest ih =>
      rw [readFields_cons_eq_error_iff] at h ⊢
      exact h.imp_right fun ⟨read, hread, hrest⟩ => ⟨read, hread, ih hrest⟩

theorem readFields_eq_error_iff {s : Schema} {entries : List (Value × Value)} {f : Failure} :
    readFields s entries = .error f ↔ ∃ before e after, entries = before ++ e :: after ∧
      (∀ d ∈ before, Converts [d]) ∧ FieldFails e f := by
  have hstart : readFields s entries = .error f ↔ readFields {} entries = .error f :=
    ⟨readFields_error_start, readFields_error_start⟩
  rw [hstart]
  refine exists_first_iff (P := fun _ entries => readFields {} entries = .error f)
    (F := fun _ e => FieldFails e f) (i := 0) (by simp [readFields]) fun _ e rest => ?_
  rw [readFields_cons_eq_error_iff, converts_entry_iff]
  refine or_congr_right ⟨?_, ?_⟩
  · rintro ⟨read, hread, hrest⟩
    exact ⟨⟨read, hread⟩, readFields_error_start hrest⟩
  · rintro ⟨⟨read, hread⟩, hrest⟩
    exact ⟨read, hread, readFields_error_start hrest⟩

/-! ## Lists and maps of schemas -/

theorem describes_iff {v : Value} : Describes v ↔ ∃ s, readSchema? v = some (.ok s) := by
  simp only [Describes, Converts, Schema.ofFields, readSchema?_eq_ok_iff]
  constructor
  · rintro ⟨entries, hv, s, hs⟩
    exact ⟨s, entries, hv, hs⟩
  · rintro ⟨s, entries, hv, hs⟩
    exact ⟨entries, hv, s, hs⟩

theorem readSchema?_eq_none_iff {v : Value} : readSchema? v = none ↔ v.isMap = false := by
  induction v using Value.byParts with
  | knot label container ih => exact ih
  | leaf v hleaf =>
      cases v with
      | cut label container => cases container <;> simp [readSchema?, Value.isMap]
      | knot label container => simp [Value.isContainer] at hleaf
      | _ => simp_all [readSchema?, Value.isMap, Value.isContainer]
  | _ => simp [readSchema?, Value.isMap]

theorem textItems_eq_error_iff {field : Text} {items : List Value} {f : Failure} :
    textItems field 0 items = .error f ↔ ∃ done x later, items = done ++ x :: later ∧
      (∀ y ∈ done, ∃ s, y = .text s) ∧ (∀ s, x ≠ .text s) ∧
        f = mismatch field "string" x.kind (some done.length) := by
  have hfirst := exists_first_iff (P := fun i items => textItems field i items = .error f)
    (F := fun i x => (∀ s, x ≠ .text s) ∧ f = mismatch field "string" x.kind (some i))
    (A := fun y => ∃ s, y = .text s) (i := 0) (l := items) (by simp [textItems]) ?_
  · simpa using hfirst
  · intro i x rest
    cases x with
    | text s =>
        simp only [textItems]
        cases textItems field (i + 1) rest <;> simp [bind, Except.bind, pure, Except.pure]
    | _ => simp [textItems, @eq_comm _ _ f]

inductive ItemFails (field : Text) (i : Nat) (x : Value) : Failure → Prop where
  | nested {f : Failure} (hx : readSchema? x = some (.error f)) :
      ItemFails field i x (f.nest [.key field, .index i])
  | kind (hx : x.isMap = false) : ItemFails field i x (mismatch field "object" x.kind (some i))

theorem readSchemas_eq_error_iff {field : Text} {items : List Value} {f : Failure} :
    readSchemas field 0 items = .error f ↔ ∃ done x later, items = done ++ x :: later ∧
      (∀ y ∈ done, Describes y) ∧ ItemFails field done.length x f := by
  have hfirst := exists_first_iff (P := fun i items => readSchemas field i items = .error f)
    (F := fun i x => ItemFails field i x f) (A := Describes) (i := 0) (l := items)
    (by simp [readSchemas]) ?_
  · simpa using hfirst
  · intro i x rest
    rw [describes_iff]
    constructor
    · intro h
      rw [readSchemas] at h
      split at h
      · next result hx =>
          cases result with
          | error g =>
              cases h
              exact .inl (.nested hx)
          | ok s =>
              rcases bind_eq_error_iff.mp h with hs | ⟨_, -, hafter⟩
              · cases hs
              rcases bind_eq_error_iff.mp hafter with hrest | ⟨ss, -, hpure⟩
              · exact .inr ⟨⟨s, hx⟩, hrest⟩
              · exact absurd hpure pure_ne_error
      · next hx =>
          cases h
          exact .inl (.kind (readSchema?_eq_none_iff.mp hx))
    · rintro (hfails | ⟨⟨s, hx⟩, hrest⟩)
      · cases hfails with
        | nested hx => simp [readSchemas, hx, Except.mapError, bind, Except.bind]
        | kind hx => simp [readSchemas, readSchema?_eq_none_iff.mpr hx]
      · simp [readSchemas, hx, hrest, Except.mapError, bind, Except.bind]

inductive MemberFails (field : Text) (e : Value × Value) : Failure → Prop where
  | nested {f : Failure} (hkey : e.1.HasText) (hx : readSchema? e.2 = some (.error f))
      (hlimit : ∀ l, f.cause ≠ .limit l) :
      MemberFails field e (f.nest [.key field, .key e.1.keyText])
  | kind (hkey : e.1.HasText) (hx : e.2.isMap = false) :
      MemberFails field e ((mismatch field "object" e.2.kind none).nest [.key field,
        .key e.1.keyText])

theorem readSchemaMap_of_fails {field : Text} {done : Entries Schema} {e : Value × Value}
    {rest : List (Value × Value)} {f : Failure} (h : MemberFails field e f) :
    readSchemaMap field done (e :: rest) = .error f := by
  obtain ⟨k, x⟩ := e
  rw [readSchemaMap]
  cases h with
  | @nested g hkey hx hlimit =>
      obtain ⟨cause, path⟩ := g
      simp only at hkey hx hlimit
      rw [hx]
      split
      · next heq =>
          cases heq
          exact absurd rfl (hlimit _)
      · next heq =>
          cases heq
          simp [hkey, Except.mapError, bind, Except.bind]
      · next heq => cases heq
  | kind hkey hx =>
      simp only at hkey hx
      simp [readSchema?_eq_none_iff.mpr hx, hkey]

theorem readSchemaMap_cons_eq_error_iff {field : Text} {done : Entries Schema}
    {e : Value × Value} {rest : List (Value × Value)} {f : Failure}
    (hf : ∀ l, f.cause ≠ .limit l) :
    readSchemaMap field done (e :: rest) = .error f ↔ MemberFails field e f ∨
      ∃ s, e.1.HasText ∧ readSchema? e.2 = some (.ok s) ∧
        readSchemaMap field (Entries.put e.1.keyText s done) rest = .error f := by
  constructor
  · intro h
    obtain ⟨k, x⟩ := e
    rw [readSchemaMap] at h
    split at h
    · cases h
      exact absurd rfl (hf _)
    · next result hcause hx =>
        split at h
        · cases h
          exact absurd rfl (hf _)
        next hkey =>
        have hkey : k.HasText := by simpa using hkey
        cases result with
        | error g =>
            cases h
            exact .inl (.nested hkey hx hf)
        | ok s => exact .inr ⟨s, hkey, hx, h⟩
    · next hx =>
        rw [Except.error.injEq] at h
        subst h
        split
        · next hkey => exact .inl (.kind hkey (readSchema?_eq_none_iff.mp hx))
        · next hkey =>
            rw [if_neg hkey] at hf
            exact absurd rfl (hf _)
  · rintro (hfails | ⟨s, hkey, hx, hrest⟩)
    · exact readSchemaMap_of_fails hfails
    · obtain ⟨k, x⟩ := e
      simp only at hkey hx hrest
      simp [readSchemaMap, hx, hkey, hrest, Except.mapError, bind, Except.bind]

theorem readSchemaMap_error_start {field : Text} {done others : Entries Schema}
    {entries : List (Value × Value)} {f : Failure} (hf : ∀ l, f.cause ≠ .limit l)
    (h : readSchemaMap field done entries = .error f) :
    readSchemaMap field others entries = .error f := by
  induction entries generalizing done others with
  | nil => simp [readSchemaMap] at h
  | cons e rest ih =>
      rw [readSchemaMap_cons_eq_error_iff hf] at h ⊢
      exact h.imp_right fun ⟨s, hkey, hx, hrest⟩ => ⟨s, hkey, hx, ih hrest⟩

theorem readSchemaMap_eq_error_iff {field : Text} {entries : List (Value × Value)} {f : Failure}
    (hf : ∀ l, f.cause ≠ .limit l) :
    readSchemaMap field [] entries = .error f ↔ ∃ done e later, entries = done ++ e :: later ∧
      (∀ d ∈ done, d.1.HasText ∧ Describes d.2) ∧ MemberFails field e f := by
  refine exists_first_iff (P := fun _ entries => readSchemaMap field [] entries = .error f)
    (F := fun _ e => MemberFails field e f) (i := 0) (by simp [readSchemaMap]) fun _ e rest => ?_
  rw [readSchemaMap_cons_eq_error_iff hf, describes_iff]
  refine or_congr_right ⟨?_, ?_⟩
  · rintro ⟨s, hkey, hx, hrest⟩
    exact ⟨⟨hkey, s, hx⟩, readSchemaMap_error_start hf hrest⟩
  · rintro ⟨⟨hkey, s, hx⟩, hrest⟩
    exact ⟨s, hkey, hx, readSchemaMap_error_start hf hrest⟩

/-! ## Values of fields -/

theorem readField_of_not_admits {field : Text} {shape : Shape} {v : Value}
    (hadmits : shape.admits v = false) (hknot : ∀ label container, v ≠ .knot label container)
    (hend : ∀ label container, v ≠ .cut label container) :
    readField field shape v = .error (mismatch field shape.wanted (shape.found v) none) := by
  cases v with
  | knot label container => exact absurd rfl (hknot label container)
  | cut label container => exact absurd rfl (hend label container)
  | int n =>
      cases shape with
      | any => cases hadmits
      | count =>
          have hn : ¬0 ≤ n := by simpa [Shape.admits] using hadmits
          simp [readField, readScalar, count?, hn, Shape.found, Value.kind]
      | _ => rfl
  | float x =>
      cases shape with
      | any => cases hadmits
      | count =>
          simp only [Shape.admits] at hadmits
          cases hx : x.toInt? with
          | none => simp [readField, readScalar, count?, hx, Shape.found]
          | some n =>
              have hn : ¬0 ≤ n := by simpa [hx] using hadmits
              simp [readField, readScalar, count?, hx, hn, Shape.found]
      | _ => rfl
  | _ => cases shape <;> first | rfl | cases hadmits

/-- Lists and tuples of the same items are read alike. -/
theorem readField_of_items {field : Text} {shape : Shape} {u : Value} {items : List Value}
    (hany : shape ≠ .any) (hu : u.items? = some items) :
    readField field shape u = readField field shape (.list items) := by
  rw [readField_untied hany]
  rw [Value.items?] at hu
  split at hu
  · next hlist =>
      cases hu
      rw [hlist]
  · next htuple =>
      cases hu
      rw [htuple, readField_tuple hany]
  · cases hu

theorem readField_strings {field : Text} {u : Value} {items : List Value}
    (hu : u.items? = some items) :
    readField field .strings u = (textItems field 0 items).map .strings := by
  rw [readField_of_items (by decide) hu, readField]
  cases textItems field 0 items <;> rfl

theorem readField_schemas {field : Text} {u : Value} {items : List Value}
    (hu : u.items? = some items) :
    readField field .schemas u = (readSchemas field 0 items).map .schemas := by
  rw [readField_of_items (by decide) hu, readField]
  cases readSchemas field 0 items <;> rfl

theorem readField_schemaMap {field : Text} {u : Value} {entries : List (Value × Value)}
    (hu : u.untied = .map entries) :
    readField field .schemaMap u = (readSchemaMap field [] entries).map .schemaMap := by
  rw [readField_untied (by decide), hu, readField]
  cases readSchemaMap field [] entries <;> rfl

theorem readField_schema_eq_error_iff {field : Text} {shape : Shape} {u : Value}
    {entries : List (Value × Value)} {f : Failure}
    (hshape : shape = .schema ∨ shape = .schemaOrBool) (hu : u.untied = .map entries) :
    readField field shape u = .error f ↔
      ∃ g, readSchema? u = some (.error g) ∧ f = g.nest [.key field] := by
  have hany : shape ≠ .any := by rcases hshape with rfl | rfl <;> decide
  rw [readField_untied hany, readSchema?_untied, hu, readSchema?_map]
  rcases hshape with rfl | rfl <;> rw [readField] <;> cases readFields {} entries <;>
    simp [Except.mapError, bind, Except.bind, pure, Except.pure, @eq_comm _ _ f]

theorem exists_items_of_admits {shape : Shape} {u : Value}
    (hshape : shape = .strings ∨ shape = .schemas) (h : shape.admits u.untied = true) :
    ∃ items, u.items? = some items := by
  rw [Value.items?]
  rcases hshape with rfl | rfl <;> cases hu : u.untied <;> simp [hu, Shape.admits] at h ⊢

theorem exists_entries_of_admits {shape : Shape} {u : Value}
    (hshape : shape = .schema ∨ shape = .schemaMap) (h : shape.admits u.untied = true) :
    ∃ entries, u.untied = .map entries := by
  rcases hshape with rfl | rfl <;> cases hu : u.untied <;> simp [hu, Shape.admits] at h ⊢

/-- Texts, truth values and counts are read once they are of the right kind. -/
theorem exists_readField_of_admits (field : Text) {shape : Shape} {u : Value}
    (hshape : shape = .string ∨ shape = .bool ∨ shape = .count)
    (h : shape.admits u.untied = true) : ∃ c, readField field shape u = .ok c := by
  rcases hshape with rfl | rfl | rfl
  · simp only [readField_string_eq_ok_iff]
    cases hu : u.untied <;> simp [hu, Shape.admits] at h ⊢
  · simp only [readField_bool_eq_ok_iff]
    cases hu : u.untied <;> simp [hu, Shape.admits] at h ⊢
  · obtain ⟨n, hn⟩ : ∃ n, count? u.untied = .ok n := by
      rw [exists_count?_iff]
      cases hu : u.untied with
      | int n => exact .inl ⟨n, rfl, by simpa [hu, Shape.admits] using h⟩
      | float x =>
          cases hx : x.toInt? with
          | none => simp [hu, Shape.admits, hx] at h
          | some n => exact .inr ⟨x, n, rfl, hx, by simpa [hu, Shape.admits, hx] using h⟩
      | _ => simp [hu, Shape.admits] at h
    exact ⟨.count n, readField_count_eq_ok_iff.mpr ⟨n, hn, rfl⟩⟩

theorem readSchema?_eq_error_iff {v : Value} {f : Failure} (hf : ∀ l, f.cause ≠ .limit l) :
    readSchema? v = some (.error f) ↔
      ∃ entries, v.untied = .map entries ∧ readFields {} entries = .error f := by
  rw [readSchema?_untied]
  have hknot := v.untied_ne_knot
  cases hv : v.untied with
  | knot label container => exact absurd hv (hknot label container)
  | map entries => simp [readSchema?_map]
  | cut label container =>
      cases container with
      | list => simp [readSchema?]
      | map =>
          simp only [readSchema?, reduceCtorEq, false_and, exists_false, iff_false,
            Option.some.injEq, Except.error.injEq]
          rintro rfl
          exact hf _ rfl
  | _ => simp [readSchema?]

end TerseSchema
