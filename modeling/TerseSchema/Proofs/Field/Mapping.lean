import TerseSchema.Field.Mapping
import TerseSchema.Proofs.Entries
import TerseSchema.Proofs.Value.Parts
import Mathlib.Data.List.Forall2
/-!
# What mapping does

The reading of a schema document, entry by entry: what an entry, an item or a sub-schema must be
for the reading to go on, and what is then read.
-/

namespace TerseSchema

attribute [local simp] readField readFields readSchema? readSchemas readSchemaMap

/-! ## Fields -/

/-- A reading goes past an entry when its key is a known field and its value
has the field's shape. -/
theorem readFields_cons_eq_ok_iff {s t : Schema} {entry : Value × Value}
    {rest : List (Value × Value)} :
    readFields s (entry :: rest) = .ok t ↔
      ∃ field shape content, entry.1 = .text field ∧ Shape.ofField? field = some shape ∧
        readField field shape entry.2 = .ok content ∧
        readFields (s.assign field content) rest = .ok t := by
  obtain ⟨k, v⟩ := entry
  constructor
  · intro h
    cases k with
    | text field =>
        rw [readFields] at h
        cases hshape : Shape.ofField? field with
        | none => simp [hshape] at h
        | some shape =>
            cases hcontent : readField field shape v with
            | error failure => simp [hshape, hcontent, bind, Except.bind] at h
            | ok content =>
                simp only [hshape, hcontent, bind, Except.bind] at h
                exact ⟨field, shape, content, rfl, hshape, hcontent, h⟩
    | _ => simp at h
  · rintro ⟨field, shape, content, rfl, hshape, hcontent, h⟩
    simp only [readFields, hshape, hcontent, bind, Except.bind]
    exact h

theorem readFields_append {s t : Schema} {entries more : List (Value × Value)}
    (h : readFields s entries = .ok t) : readFields s (entries ++ more) = readFields t more := by
  induction entries generalizing s with
  | nil =>
      simp only [readFields, Except.ok.injEq] at h
      simp [h]
  | cons e rest ih =>
      obtain ⟨field, shape, content, hkey, hshape, hcontent, hrest⟩ :=
        readFields_cons_eq_ok_iff.mp h
      obtain ⟨k, v⟩ := e
      subst hkey
      simp only [List.cons_append, readFields, hshape, hcontent, bind, Except.bind]
      exact ih hrest

/-! ## Nested schemas -/

theorem readSchemas_cons_eq_ok_iff {field : Text} {position : Nat} {v : Value}
    {rest : List Value} {ss : List Schema} :
    readSchemas field position (v :: rest) = .ok ss ↔
      ∃ s after, readSchema? v = some (.ok s) ∧
        readSchemas field (position + 1) rest = .ok after ∧ ss = s :: after := by
  rw [readSchemas]
  cases hv : readSchema? v with
  | none => simp
  | some result =>
      cases result with
      | error failure => simp [Except.mapError, bind, Except.bind]
      | ok s =>
          simp only [Except.mapError, bind, Except.bind]
          cases readSchemas field (position + 1) rest with
          | error failure => simp
          | ok after => simp [pure, Except.pure, @eq_comm _ _ ss]

theorem readSchemas_eq_ok_iff {field : Text} {position : Nat} {items : List Value}
    {ss : List Schema} :
    readSchemas field position items = .ok ss ↔
      List.Forall₂ (fun v s => readSchema? v = some (.ok s)) items ss := by
  induction items generalizing position ss with
  | nil => simp [@eq_comm _ _ ss]
  | cons v rest ih =>
      rw [readSchemas_cons_eq_ok_iff, List.forall₂_cons_left_iff]
      simp only [ih]

theorem readSchemaMap_cons_eq_ok_iff {field : Text} {done ss : Entries Schema}
    {entry : Value × Value} {rest : List (Value × Value)} :
    readSchemaMap field done (entry :: rest) = .ok ss ↔
      entry.1.isWritable = true ∧ ∃ s, readSchema? entry.2 = some (.ok s) ∧
        readSchemaMap field (Entries.put entry.1.keyText s done) rest = .ok ss := by
  obtain ⟨k, v⟩ := entry
  rw [readSchemaMap]
  cases hv : readSchema? v with
  | none => cases k.isWritable <;> simp [Failure.nest, mismatch]
  | some result =>
      cases result with
      | error failure =>
          obtain ⟨cause, path⟩ := failure
          cases cause <;> cases k.isWritable <;> simp [Except.mapError, bind, Except.bind]
      | ok s =>
          cases k.isWritable with
          | false => simp
          | true => simp [Except.mapError, bind, Except.bind]

/-! ## Contents -/

def Content.shape : Content → Shape
  | .any _ => .any
  | .string _ => .string
  | .count _ => .count
  | .bool _ => .bool
  | .strings _ => .strings
  | .schema _ => .schema
  | .schemas _ => .schemas
  | .schemaMap _ => .schemaMap
  | .additional _ => .schemaOrBool

/-! ## Single shapes -/

variable {field : Text} {v : Value} {content : Content}

theorem readField_any (field : Text) (v : Value) : readField field .any v = .ok (.any v) := by
  cases v <;> rfl

/-- Any other shape is asked of the container inside of a knot. -/
theorem readField_untied {shape : Shape} (hshape : shape ≠ .any) :
    readField field shape v = readField field shape v.untied := by
  induction v using Value.byParts with
  | knot label container ih =>
      rw [Value.untied_knot, ← ih]
      cases shape <;> first | rfl | exact absurd rfl hshape
  | leaf v hleaf => rw [Value.untied_of_not_container hleaf]
  | _ => rfl

theorem readField_string_eq_ok_iff :
    readField field .string v = .ok content ↔ ∃ s, v.untied = .text s ∧ content = .string s := by
  rw [readField_untied (by decide)]
  have hknot := v.untied_ne_knot
  cases hv : v.untied with
  | knot label container => exact absurd hv (hknot label container)
  | _ => simp [readScalar, @eq_comm _ _ content]

theorem readField_bool_eq_ok_iff :
    readField field .bool v = .ok content ↔ ∃ b, v.untied = .bool b ∧ content = .bool b := by
  rw [readField_untied (by decide)]
  have hknot := v.untied_ne_knot
  cases hv : v.untied with
  | knot label container => exact absurd hv (hknot label container)
  | _ => simp [readScalar, @eq_comm _ _ content]

theorem readField_count_eq_ok_iff :
    readField field .count v = .ok content ↔
      ∃ n, count? v.untied = .ok n ∧ content = .count n := by
  rw [readField_untied (by decide)]
  have hknot := v.untied_ne_knot
  cases hv : v.untied with
  | knot label container => exact absurd hv (hknot label container)
  | int x | float x =>
      simp only [readField, readScalar]
      cases count? _ <;> simp [@eq_comm _ _ content]
  | _ => simp [readScalar, count?]

theorem textItems_eq_ok_iff {position : Nat} {items : List Value} {texts : List Text} :
    textItems field position items = .ok texts ↔ items = texts.map .text := by
  induction items generalizing position texts with
  | nil => cases texts <;> simp [textItems]
  | cons item rest ih =>
      cases texts with
      | nil =>
          cases item <;> simp [textItems]
          cases textItems field (position + 1) rest <;> simp
      | cons s texts =>
          rw [List.map_cons, List.cons.injEq, ← @ih (position + 1) texts]
          cases item <;> simp [textItems]
          cases textItems field (position + 1) rest <;> simp

theorem readField_strings_eq_ok_iff :
    readField field .strings v = .ok content ↔
      ∃ texts, v.items? = some (texts.map .text) ∧ content = .strings texts := by
  rw [readField_untied (by decide), Value.items?]
  have hknot := v.untied_ne_knot
  cases hv : v.untied with
  | knot label container => exact absurd hv (hknot label container)
  | list items | tuple items =>
      simp only [readField, Option.some.injEq, ← @textItems_eq_ok_iff field 0]
      cases textItems field 0 items <;>
        simp [bind, Except.bind, pure, Except.pure, @eq_comm _ _ content]
  | _ => simp [readScalar]

/-! ## Shapes with schemas -/

theorem readSchema?_map (entries : List (Value × Value)) :
    readSchema? (.map entries) = some (readFields {} entries) := rfl

theorem readSchema?_untied (v : Value) : readSchema? v = readSchema? v.untied := by
  induction v using Value.byParts with
  | knot label container ih => exact ih
  | leaf v hleaf => rw [Value.untied_of_not_container hleaf]
  | _ => rfl

theorem readSchema?_eq_ok_iff {s : Schema} :
    readSchema? v = some (.ok s) ↔
      ∃ entries, v.untied = .map entries ∧ readFields {} entries = .ok s := by
  rw [readSchema?_untied]
  have hknot := v.untied_ne_knot
  cases hv : v.untied with
  | knot label container => exact absurd hv (hknot label container)
  | cut label container => cases container <;> simp
  | _ => simp

theorem readField_schema_eq_ok_iff :
    readField field .schema v = .ok content ↔
      ∃ s, readSchema? v = some (.ok s) ∧ content = .schema s := by
  rw [readField_untied (by decide), readSchema?_untied]
  have hknot := v.untied_ne_knot
  cases hv : v.untied with
  | knot label container => exact absurd hv (hknot label container)
  | map entries =>
      simp only [readField, readSchema?_map]
      cases readFields {} entries <;>
        simp [Except.mapError, bind, Except.bind, pure, Except.pure, @eq_comm _ _ content]
  | cut label container => cases container <;> simp
  | _ => simp [readScalar]

theorem readField_schemaOrBool_eq_ok_iff :
    readField field .schemaOrBool v = .ok content ↔
      (∃ b, v.untied = .bool b ∧ content = .additional (if b then .schema {} else .forbidden)) ∨
      ∃ s, readSchema? v = some (.ok s) ∧ content = .additional (.schema s) := by
  rw [readField_untied (by decide), readSchema?_untied]
  have hknot := v.untied_ne_knot
  cases hv : v.untied with
  | knot label container => exact absurd hv (hknot label container)
  | map entries =>
      simp only [readField, readSchema?_map]
      cases readFields {} entries <;>
        simp [Except.mapError, bind, Except.bind, pure, Except.pure, @eq_comm _ _ content]
  | cut label container => cases container <;> simp
  | _ => simp [readScalar, @eq_comm _ _ content]

theorem readField_schemas_eq_ok_iff :
    readField field .schemas v = .ok content ↔
      ∃ items ss, v.items? = some items ∧
        List.Forall₂ (fun v s => readSchema? v = some (.ok s)) items ss ∧
        content = .schemas ss := by
  rw [readField_untied (by decide), Value.items?]
  have hknot := v.untied_ne_knot
  cases hv : v.untied with
  | knot label container => exact absurd hv (hknot label container)
  | list items | tuple items =>
      simp only [readField, Option.some.injEq, exists_and_left, exists_eq_left',
        ← @readSchemas_eq_ok_iff field 0]
      cases readSchemas field 0 items <;>
        simp [bind, Except.bind, pure, Except.pure, @eq_comm _ _ content]
  | _ => simp [readScalar]

theorem readField_schemaMap_eq_ok_iff :
    readField field .schemaMap v = .ok content ↔
      ∃ entries ss, v.untied = .map entries ∧ readSchemaMap field [] entries = .ok ss ∧
        content = .schemaMap ss := by
  rw [readField_untied (by decide)]
  have hknot := v.untied_ne_knot
  cases hv : v.untied with
  | knot label container => exact absurd hv (hknot label container)
  | map entries =>
      simp only [readField]
      cases hmap : readSchemaMap field [] entries <;>
        simp [hmap, bind, Except.bind, pure, Except.pure, @eq_comm _ _ content]
  | _ => simp [readScalar]

/-- What is read as a shape is a content of that shape. -/
theorem shape_of_readField {shape : Shape} (h : readField field shape v = .ok content) :
    content.shape = shape := by
  cases shape with
  | any =>
      rw [readField_any, Except.ok.injEq] at h
      rw [← h]
      rfl
  | string =>
      obtain ⟨s, -, rfl⟩ := readField_string_eq_ok_iff.mp h
      rfl
  | count =>
      obtain ⟨n, -, rfl⟩ := readField_count_eq_ok_iff.mp h
      rfl
  | bool =>
      obtain ⟨b, -, rfl⟩ := readField_bool_eq_ok_iff.mp h
      rfl
  | strings =>
      obtain ⟨texts, -, rfl⟩ := readField_strings_eq_ok_iff.mp h
      rfl
  | schema =>
      obtain ⟨s, -, rfl⟩ := readField_schema_eq_ok_iff.mp h
      rfl
  | schemas =>
      obtain ⟨items, ss, -, -, rfl⟩ := readField_schemas_eq_ok_iff.mp h
      rfl
  | schemaMap =>
      obtain ⟨entries, ss, -, -, rfl⟩ := readField_schemaMap_eq_ok_iff.mp h
      rfl
  | schemaOrBool =>
      rcases readField_schemaOrBool_eq_ok_iff.mp h with ⟨b, -, rfl⟩ | ⟨s, -, rfl⟩ <;> rfl

end TerseSchema
