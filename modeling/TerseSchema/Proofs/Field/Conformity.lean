import TerseSchema.Proofs.Field.Contents
import TerseSchema.Proofs.Outcome
/-!
# Conformity to the table of fields

Which documents describe schemas, said without the schemas that they describe: every key is a
field of the table, and its value has the field's shape. Reading succeeds on exactly these,
and where it fails the failure is a field that is not known or a value of another kind.
Nothing else can go wrong but to write a key with too many digits, and to follow a document
that lies inside of itself.
-/

namespace TerseSchema

/-- Whether a value has a shape. Of the keys of a map of schemas, `key`
tells which are allowed. -/
inductive Conforms (key : Value → Prop) : Shape → Value → Prop where
  | any (v : Value) : Conforms key .any v
  | string {v : Value} {s : Text} (h : v.untied = .text s) : Conforms key .string v
  | bool {v : Value} {b : Bool} (h : v.untied = .bool b) : Conforms key .bool v
  | integer {v : Value} {n : Int} (h : v.untied = .int n) (hn : 0 ≤ n) : Conforms key .count v
  /-- A float whose exact value is a whole number. -/
  | whole {v : Value} {x : Binary64} {num n : Int} {den : Nat} (h : v.untied = .float x)
      (hratio : x.ratio? = some (num, den)) (hwhole : num = n * den) (hn : 0 ≤ n) :
      Conforms key .count v
  | strings {v : Value} {items : List Value} (h : v.items? = some items)
      (hitems : ∀ w ∈ items, ∃ s, w = .text s) : Conforms key .strings v
  | schema {v : Value} {entries : List (Value × Value)} (h : v.untied = .map entries)
      (hfields : ∀ e ∈ entries, ∃ field shape,
        e.1 = .text field ∧ Shape.ofField? field = some shape)
      (hvalues : ∀ field shape w, (.text field, w) ∈ entries →
        Shape.ofField? field = some shape → Conforms key shape w) : Conforms key .schema v
  | schemas {v : Value} {items : List Value} (h : v.items? = some items)
      (hitems : ∀ w ∈ items, Conforms key .schema w) : Conforms key .schemas v
  | schemaMap {v : Value} {entries : List (Value × Value)} (h : v.untied = .map entries)
      (hkeys : ∀ e ∈ entries, key e.1) (hvalues : ∀ e ∈ entries, Conforms key .schema e.2) :
      Conforms key .schemaMap v
  | truth {v : Value} {b : Bool} (h : v.untied = .bool b) : Conforms key .schemaOrBool v
  | described {v : Value} (h : Conforms key .schema v) : Conforms key .schemaOrBool v

/-- Whether a key can be written as a text. A number with too many digits cannot. -/
abbrev Value.HasText (k : Value) : Prop := k.isWritable = true

/-! ## Counts -/

theorem Binary64.den_pos {x : Binary64} {num : Int} {den : Nat}
    (h : x.ratio? = some (num, den)) : 0 < den := by
  cases x with
  | finite negative significand exponent _ =>
      simp only [ratio?, Option.some.injEq, Prod.mk.injEq] at h
      rw [← h.2]
      cases exponent with
      | ofNat n => exact Nat.one_pos
      | negSucc n => exact Nat.two_pow_pos _
  | _ => simp [ratio?] at h

theorem Binary64.toInt?_eq_some_iff {x : Binary64} {n : Int} :
    x.toInt? = some n ↔ ∃ num den, x.ratio? = some (num, den) ∧ num = n * den := by
  rw [toInt?]
  cases hratio : x.ratio? with
  | none => simp
  | some r =>
      obtain ⟨num, den⟩ := r
      have hden : (den : Int) ≠ 0 := by
        have := den_pos hratio
        omega
      simp only [Option.some.injEq, Prod.mk.injEq, existsAndEq, true_and]
      split
      · next hwhole =>
          rw [Option.some.injEq, Int.ediv_eq_iff_eq_mul_left hden
            (Int.dvd_of_emod_eq_zero hwhole)]
      · next hpart =>
          simp only [reduceCtorEq, false_iff]
          rintro rfl
          exact hpart (Int.mul_emod_left n den)

theorem exists_count?_iff {v : Value} :
    (∃ n, count? v = .ok n) ↔ (∃ n, v = .int n ∧ 0 ≤ n) ∨
      ∃ x n, v = .float x ∧ x.toInt? = some n ∧ 0 ≤ n := by
  cases v with
  | int n =>
      simp only [count?]
      split <;> simp_all
  | float x =>
      simp only [count?]
      cases hx : x.toInt? with
      | none => simp [hx]
      | some n => by_cases hn : 0 ≤ n <;> simp [hx, hn]
  | _ => simp [count?]

theorem conforms_count_iff {key : Value → Prop} {v : Value} :
    Conforms key .count v ↔ ∃ n, count? v.untied = .ok n := by
  rw [exists_count?_iff]
  constructor
  · intro h
    cases h with
    | integer h hn => exact .inl ⟨_, h, hn⟩
    | whole h hratio hwhole hn =>
        exact .inr ⟨_, _, h, Binary64.toInt?_eq_some_iff.mpr ⟨_, _, hratio, hwhole⟩, hn⟩
  · rintro (⟨n, h, hn⟩ | ⟨x, n, h, hx, hn⟩)
    · exact .integer h hn
    · obtain ⟨num, den, hratio, hwhole⟩ := Binary64.toInt?_eq_some_iff.mp hx
      exact .whole h hratio hwhole hn

/-! ## Shapes -/

section

variable {key : Value → Prop} {v : Value}

theorem conforms_string_iff : Conforms key .string v ↔ ∃ s, v.untied = .text s := by
  constructor
  · intro h
    cases h with
    | string h => exact ⟨_, h⟩
  · rintro ⟨s, h⟩
    exact .string h

theorem conforms_bool_iff : Conforms key .bool v ↔ ∃ b, v.untied = .bool b := by
  constructor
  · intro h
    cases h with
    | bool h => exact ⟨_, h⟩
  · rintro ⟨b, h⟩
    exact .bool h

theorem conforms_strings_iff :
    Conforms key .strings v ↔ ∃ texts : List Text, v.items? = some (texts.map .text) := by
  constructor
  · intro h
    cases h with
    | strings h hitems =>
        obtain ⟨texts, htexts⟩ := exists_forall₂_iff.mpr hitems
        rw [← List.forall₂_map_right_iff (f := Value.text) (R := Eq),
          List.forall₂_eq_eq_eq] at htexts
        exact ⟨texts, htexts ▸ h⟩
  · rintro ⟨texts, h⟩
    refine .strings h fun w hw => ?_
    obtain ⟨s, -, rfl⟩ := List.mem_map.mp hw
    exact ⟨s, rfl⟩

theorem conforms_schema_iff :
    Conforms key .schema v ↔ ∃ entries, v.untied = .map entries ∧ ∀ e ∈ entries,
      ∃ field shape, e.1 = .text field ∧ Shape.ofField? field = some shape ∧
        Conforms key shape e.2 := by
  constructor
  · intro h
    cases h with
    | schema h hfields hvalues =>
        refine ⟨_, h, fun e he => ?_⟩
        obtain ⟨field, shape, hkey, hshape⟩ := hfields e he
        obtain ⟨k, w⟩ := e
        obtain rfl : k = .text field := hkey
        exact ⟨field, shape, rfl, hshape, hvalues field shape w he hshape⟩
  · rintro ⟨entries, h, hentries⟩
    refine .schema h (fun e he => ?_) fun field shape w hmem hshape => ?_
    · obtain ⟨field, shape, hkey, hshape, -⟩ := hentries e he
      exact ⟨field, shape, hkey, hshape⟩
    · obtain ⟨other, shape', hkey, hshape', hconforms⟩ := hentries _ hmem
      obtain rfl := Value.text.inj hkey
      obtain rfl := Option.some.inj (hshape.symm.trans hshape')
      exact hconforms

theorem conforms_schemas_iff : Conforms key .schemas v ↔
    ∃ items, v.items? = some items ∧ ∀ w ∈ items, Conforms key .schema w := by
  constructor
  · intro h
    cases h with
    | schemas h hitems => exact ⟨_, h, hitems⟩
  · rintro ⟨items, h, hitems⟩
    exact .schemas h hitems

theorem conforms_schemaMap_iff : Conforms key .schemaMap v ↔ ∃ entries, v.untied = .map entries ∧
    (∀ e ∈ entries, key e.1) ∧ ∀ e ∈ entries, Conforms key .schema e.2 := by
  constructor
  · intro h
    cases h with
    | schemaMap h hkeys hvalues => exact ⟨_, h, hkeys, hvalues⟩
  · rintro ⟨entries, h, hkeys, hvalues⟩
    exact .schemaMap h hkeys hvalues

theorem conforms_schemaOrBool_iff :
    Conforms key .schemaOrBool v ↔ (∃ b, v.untied = .bool b) ∨ Conforms key .schema v := by
  constructor
  · intro h
    cases h with
    | truth h => exact .inl ⟨_, h⟩
    | described h => exact .inr h
  · rintro (⟨b, h⟩ | h)
    · exact .truth h
    · exact .described h

end

/-! ## Acceptance -/

/-- A value is read as any shape that it has, and as no other. -/
def ReadAsConforms (v : Value) : Prop :=
  ∀ field shape, (∃ c, readField field shape v = .ok c) ↔ Conforms Value.HasText shape v

theorem exists_readSchema?_iff {v : Value} (h : ReadAsConforms v) :
    (∃ s, readSchema? v = some (.ok s)) ↔ Conforms Value.HasText .schema v := by
  rw [← h [] .schema]
  simp [readField_schema_eq_ok_iff]

theorem exists_entryReads_iff {e : Value × Value} (h : ReadAsConforms e.2) :
    (∃ read, EntryReads e read) ↔ ∃ field shape, e.1 = .text field ∧
      Shape.ofField? field = some shape ∧ Conforms Value.HasText shape e.2 := by
  constructor
  · rintro ⟨⟨field, c⟩, hkey, hshape, hread⟩
    exact ⟨field, c.shape, hkey, hshape, (h field c.shape).mp ⟨c, hread⟩⟩
  · rintro ⟨field, shape, hkey, hshape, hconforms⟩
    obtain ⟨c, hread⟩ := (h field shape).mpr hconforms
    obtain rfl := shape_of_readField hread
    exact ⟨(field, c), hkey, hshape, hread⟩

theorem exists_readFields_iff {entries : List (Value × Value)}
    (h : ∀ e ∈ entries, ReadAsConforms e.2) :
    (∃ s, readFields {} entries = .ok s) ↔ ∀ e ∈ entries, ∃ field shape, e.1 = .text field ∧
      Shape.ofField? field = some shape ∧ Conforms Value.HasText shape e.2 := by
  have hread : (∃ s, readFields {} entries = .ok s) ↔
      ∃ contents, List.Forall₂ EntryReads entries contents := by
    simp only [readFields_eq_ok_iff]
    constructor
    · rintro ⟨s, contents, hcontents, -⟩
      exact ⟨contents, hcontents⟩
    · rintro ⟨contents, hcontents⟩
      exact ⟨_, contents, hcontents, rfl⟩
  rw [hread, exists_forall₂_iff]
  exact forall₂_congr fun e he => exists_entryReads_iff (h e he)

theorem exists_readSchemaMap_iff {field : Text} {done : Entries Schema}
    {entries : List (Value × Value)} (h : ∀ e ∈ entries, ReadAsConforms e.2) :
    (∃ ss, readSchemaMap field done entries = .ok ss) ↔
      (∀ e ∈ entries, e.1.HasText) ∧ ∀ e ∈ entries, Conforms Value.HasText .schema e.2 := by
  induction entries generalizing done with
  | nil => simp [readSchemaMap]
  | cons e rest ih =>
      rw [List.forall_mem_cons] at h
      simp only [readSchemaMap_cons_eq_ok_iff, List.forall_mem_cons]
      rw [← exists_readSchema?_iff h.1]
      constructor
      · rintro ⟨ss, hkey, s, hs, hrest⟩
        obtain ⟨hkeys, hvalues⟩ := (ih h.2).mp ⟨ss, hrest⟩
        exact ⟨⟨hkey, hkeys⟩, ⟨s, hs⟩, hvalues⟩
      · rintro ⟨⟨hkey, hkeys⟩, ⟨s, hs⟩, hvalues⟩
        obtain ⟨ss, hrest⟩ := (@ih (Entries.put e.1.keyText s done) h.2).mpr ⟨hkeys, hvalues⟩
        exact ⟨ss, hkey, s, hs, hrest⟩

/-- A value is a schema exactly when it is a map that is read as one. -/
theorem exists_readSchema?_of_entries {v : Value}
    (h : ∀ entries, v.untied = .map entries → ∀ e ∈ entries, ReadAsConforms e.2) :
    (∃ s, readSchema? v = some (.ok s)) ↔ Conforms Value.HasText .schema v := by
  simp only [readSchema?_eq_ok_iff, conforms_schema_iff]
  rw [exists_comm]
  refine exists_congr fun entries => ?_
  rw [exists_and_left]
  exact and_congr_right fun hmap => exists_readFields_iff (h entries hmap)

theorem exists_readSchemas_iff {items : List Value} (h : ∀ w ∈ items, ReadAsConforms w) :
    (∃ ss, List.Forall₂ (fun w s => readSchema? w = some (.ok s)) items ss) ↔
      ∀ w ∈ items, Conforms Value.HasText .schema w := by
  rw [exists_forall₂_iff]
  exact forall₂_congr fun w hw => exists_readSchema?_iff (h w hw)

theorem readAsConforms (v : Value) : ReadAsConforms v := by
  induction v using Value.byContents with
  | step v ihItems ihEntries =>
      have hschema := exists_readSchema?_of_entries ihEntries
      intro field shape
      cases shape with
      | any =>
          simp only [readField_any, Except.ok.injEq, exists_eq', true_iff]
          exact .any v
      | string =>
          rw [conforms_string_iff]
          simp only [readField_string_eq_ok_iff]
          rw [exists_comm]
          simp
      | bool =>
          rw [conforms_bool_iff]
          simp only [readField_bool_eq_ok_iff]
          rw [exists_comm]
          simp
      | count =>
          rw [conforms_count_iff]
          simp only [readField_count_eq_ok_iff]
          rw [exists_comm]
          simp
      | strings =>
          rw [conforms_strings_iff]
          simp only [readField_strings_eq_ok_iff]
          rw [exists_comm]
          simp
      | schema =>
          rw [← hschema]
          simp only [readField_schema_eq_ok_iff]
          rw [exists_comm]
          simp
      | schemas =>
          rw [conforms_schemas_iff]
          simp only [readField_schemas_eq_ok_iff]
          constructor
          · rintro ⟨_, items, ss, h, hss, -⟩
            exact ⟨items, h, (exists_readSchemas_iff (ihItems items h)).mp ⟨ss, hss⟩⟩
          · rintro ⟨items, h, hitems⟩
            obtain ⟨ss, hss⟩ := (exists_readSchemas_iff (ihItems items h)).mpr hitems
            exact ⟨_, items, ss, h, hss, rfl⟩
      | schemaMap =>
          rw [conforms_schemaMap_iff]
          simp only [readField_schemaMap_eq_ok_iff]
          constructor
          · rintro ⟨_, entries, ss, h, hss, -⟩
            exact ⟨entries, h, (exists_readSchemaMap_iff (ihEntries entries h)).mp ⟨ss, hss⟩⟩
          · rintro ⟨entries, h, hentries⟩
            obtain ⟨ss, hss⟩ := (exists_readSchemaMap_iff (ihEntries entries h)).mpr hentries
            exact ⟨_, entries, ss, h, hss, rfl⟩
      | schemaOrBool =>
          rw [conforms_schemaOrBool_iff, ← hschema]
          simp only [readField_schemaOrBool_eq_ok_iff]
          constructor
          · rintro ⟨_, ⟨b, h, -⟩ | ⟨s, h, -⟩⟩
            · exact .inl ⟨b, h⟩
            · exact .inr ⟨s, h⟩
          · rintro (⟨b, h⟩ | ⟨s, h⟩)
            · exact ⟨_, .inl ⟨b, h, rfl⟩⟩
            · exact ⟨_, .inr ⟨s, h, rfl⟩⟩

/-! ## Failures -/

namespace Value

/-- Somewhere in a value there is a map with a key that cannot be written. -/
def HasLongKey (v : Value) : Prop :=
  ∃ entries k w, v.Reaches (.map entries) ∧ (k, w) ∈ entries ∧ ¬k.HasText

/-- Somewhere in a value a container lies inside of itself. -/
def HasCut (v : Value) : Prop := ∃ label container, v.Reaches (.cut label container)

end Value

/-- What can go wrong in reading a value. -/
inductive Failure.ExplainedBy (v : Value) (f : Failure) : Prop where
  | unrecognized {field : Text} (h : f.cause = .unrecognizedField field) : ExplainedBy v f
  | mismatch {field wanted found : Text} {index : Option Int}
      (h : f.cause = .fieldMismatch field wanted found index) : ExplainedBy v f
  | longKey (h : f.cause = .limit .longNumeral) (hkey : v.HasLongKey) : ExplainedBy v f
  | endless (h : f.cause = .limit .endless) (hcut : v.HasCut) : ExplainedBy v f

namespace Failure.ExplainedBy

variable {v w : Value} {f g : Failure}

theorem of_cause_eq (h : f.ExplainedBy v) (hcause : g.cause = f.cause) : g.ExplainedBy v := by
  cases h with
  | unrecognized h => exact .unrecognized (hcause.trans h)
  | mismatch h => exact .mismatch (hcause.trans h)
  | longKey h hkey => exact .longKey (hcause.trans h) hkey
  | endless h hcut => exact .endless (hcause.trans h) hcut

theorem of_reaches (h : f.ExplainedBy w) (hreaches : v.Reaches w) : f.ExplainedBy v := by
  cases h with
  | unrecognized h => exact .unrecognized h
  | mismatch h => exact .mismatch h
  | longKey h hkey =>
      obtain ⟨entries, k, u, hmap, hmem, hlong⟩ := hkey
      exact .longKey h ⟨entries, k, u, hreaches.trans hmap, hmem, hlong⟩
  | endless h hcut =>
      obtain ⟨label, container, hinside⟩ := hcut
      exact .endless h ⟨label, container, hreaches.trans hinside⟩

end Failure.ExplainedBy

def FailsExplained (v : Value) : Prop :=
  ∀ field shape f, readField field shape v = .error f → f.ExplainedBy v

theorem explained_readSchema? {v : Value} {f : Failure} (h : FailsExplained v)
    (hread : readSchema? v = some (.error f)) : f.ExplainedBy v := by
  -- The same failure, seen from the field, is the one of a field that holds a schema.
  have hfield : ∃ g, readField [] .schema v = .error g ∧ f.cause = g.cause := by
    rw [readField_untied (by decide)]
    rw [readSchema?_untied] at hread
    have hknot := v.untied_ne_knot
    cases hv : v.untied with
    | knot label container => exact absurd hv (hknot label container)
    | map entries =>
        rw [hv, readSchema?_map, Option.some.injEq] at hread
        simp [readField, hread, Except.mapError, bind, Except.bind, Failure.nest]
    | cut label container =>
        rw [hv] at hread
        cases container with
        | list => simp [readSchema?] at hread
        | map =>
            simp only [readSchema?, Option.some.injEq, Except.error.injEq] at hread
            exact ⟨_, rfl, hread ▸ rfl⟩
    | _ =>
        rw [hv] at hread
        simp [readSchema?] at hread
  obtain ⟨g, hg, hcause⟩ := hfield
  exact (h [] .schema g hg).of_cause_eq hcause

theorem explained_showing {v k : Value} {field : Text} (hkey : ¬k.HasText → v.HasLongKey) :
    (⟨.showing k (.unrecognizedField field), []⟩ : Failure).ExplainedBy v := by
  by_cases htext : k.HasText
  · exact .unrecognized (if_pos htext)
  · exact .longKey (if_neg htext) (hkey htext)

theorem explained_readFields {v : Value} {entries : List (Value × Value)} {s : Schema}
    {f : Failure} (hkeys : ∀ e ∈ entries, ¬e.1.HasText → v.HasLongKey)
    (hvalues : ∀ e ∈ entries, FailsExplained e.2 ∧ v.Reaches e.2)
    (h : readFields s entries = .error f) : f.ExplainedBy v := by
  induction entries generalizing s with
  | nil => simp [readFields] at h
  | cons e rest ih =>
      obtain ⟨k, w⟩ := e
      rw [List.forall_mem_cons] at hkeys hvalues
      cases k with
      | text field =>
          rw [readFields] at h
          split at h
          · cases h
            exact .unrecognized rfl
          · rcases bind_eq_error_iff.mp h with hread | ⟨c, -, hrest⟩
            · exact (hvalues.1.1 field _ f hread).of_reaches hvalues.1.2
            · exact ih hkeys.2 hvalues.2 hrest
      | _ =>
          simp only [readFields, Except.error.injEq] at h
          exact h ▸ explained_showing hkeys.1

theorem explained_textItems {v : Value} {field : Text} {items : List Value} {position : Nat}
    {f : Failure} (h : textItems field position items = .error f) : f.ExplainedBy v := by
  induction items generalizing position with
  | nil => simp [textItems] at h
  | cons w rest ih =>
      cases w with
      | text s =>
          rw [textItems] at h
          rcases bind_eq_error_iff.mp h with hrest | ⟨texts, -, hpure⟩
          · exact ih hrest
          · exact absurd hpure pure_ne_error
      | _ =>
          simp only [textItems, Except.error.injEq] at h
          subst h
          exact .mismatch rfl

theorem explained_readSchemas {v : Value} {field : Text} {items : List Value} {position : Nat}
    {f : Failure} (hitems : ∀ w ∈ items, FailsExplained w ∧ v.Reaches w)
    (h : readSchemas field position items = .error f) : f.ExplainedBy v := by
  induction items generalizing position with
  | nil => simp [readSchemas] at h
  | cons w rest ih =>
      rw [List.forall_mem_cons] at hitems
      rw [readSchemas] at h
      split at h
      · next result hread =>
          rcases bind_eq_error_iff.mp h with hresult | ⟨s, -, hafter⟩
          · obtain ⟨g, rfl, rfl⟩ := mapError_eq_error_iff.mp hresult
            have hg := (explained_readSchema? hitems.1.1 hread).of_reaches hitems.1.2
            exact hg.of_cause_eq rfl
          · rcases bind_eq_error_iff.mp hafter with hrest | ⟨ss, -, hpure⟩
            · exact ih hitems.2 hrest
            · exact absurd hpure pure_ne_error
      · cases h
        exact .mismatch rfl

theorem explained_readSchemaMap {v : Value} {field : Text} {entries : List (Value × Value)}
    {done : Entries Schema} {f : Failure} (hkeys : ∀ e ∈ entries, ¬e.1.HasText → v.HasLongKey)
    (hvalues : ∀ e ∈ entries, FailsExplained e.2 ∧ v.Reaches e.2)
    (h : readSchemaMap field done entries = .error f) : f.ExplainedBy v := by
  induction entries generalizing done with
  | nil => simp [readSchemaMap] at h
  | cons e rest ih =>
      obtain ⟨k, w⟩ := e
      rw [List.forall_mem_cons] at hkeys hvalues
      have hlong : ¬k.HasText → Failure.longNumeral.ExplainedBy v :=
        fun hkey => .longKey rfl (hkeys.1 hkey)
      rw [readSchemaMap] at h
      split at h
      · next hread =>
          cases h
          have hg := (explained_readSchema? hvalues.1.1 hread).of_reaches hvalues.1.2
          exact hg.of_cause_eq rfl
      · next result _ hread =>
          split at h
          · next hkey =>
              cases h
              exact hlong (by simpa using hkey)
          · rcases bind_eq_error_iff.mp h with hresult | ⟨s, -, hrest⟩
            · obtain ⟨g, rfl, rfl⟩ := mapError_eq_error_iff.mp hresult
              have hg := (explained_readSchema? hvalues.1.1 hread).of_reaches hvalues.1.2
              exact hg.of_cause_eq rfl
            · exact ih hkeys.2 hvalues.2 hrest
      · cases h
        split
        · exact .mismatch rfl
        · next hkey => exact hlong hkey

theorem explained_readScalar {v w : Value} {field : Text} {shape : Shape} {f : Failure}
    (h : readScalar field shape w = .error f) : f.ExplainedBy v := by
  unfold readScalar at h
  split at h
  case h_5 =>
    split at h <;> cases h
    exact .mismatch rfl
  case h_6 =>
    cases h
    exact .mismatch rfl
  all_goals cases h

theorem readField_tuple {field : Text} {shape : Shape} {items : List Value}
    (hany : shape ≠ .any) :
    readField field shape (.tuple items) = readField field shape (.list items) := by
  cases shape <;> first | rfl | exact absurd rfl hany

theorem explained_items {v : Value} {field : Text} {shape : Shape} {items : List Value}
    {f : Failure} (hitems : ∀ w ∈ items, FailsExplained w ∧ v.Reaches w) (hany : shape ≠ .any)
    (h : readField field shape (.list items) = .error f) : f.ExplainedBy v := by
  cases shape with
  | any => exact absurd rfl hany
  | strings =>
      rcases bind_eq_error_iff.mp h with hread | ⟨texts, -, hpure⟩
      · exact explained_textItems hread
      · exact absurd hpure pure_ne_error
  | schemas =>
      rcases bind_eq_error_iff.mp h with hread | ⟨ss, -, hpure⟩
      · exact explained_readSchemas hitems hread
      · exact absurd hpure pure_ne_error
  | _ =>
      cases h
      exact .mismatch rfl

theorem explained_entries {v : Value} {field : Text} {shape : Shape}
    {entries : List (Value × Value)} {f : Failure}
    (hkeys : ∀ e ∈ entries, ¬e.1.HasText → v.HasLongKey)
    (hvalues : ∀ e ∈ entries, FailsExplained e.2 ∧ v.Reaches e.2) (hany : shape ≠ .any)
    (h : readField field shape (.map entries) = .error f) : f.ExplainedBy v := by
  have hschema : ∀ {wrap : Schema → Content},
      ((readFields {} entries).mapError (Failure.nest [.key field]) >>= fun s => pure (wrap s)) =
        .error f → f.ExplainedBy v := by
    intro wrap hread
    rcases bind_eq_error_iff.mp hread with hread | ⟨s, -, hpure⟩
    · obtain ⟨g, hg, rfl⟩ := mapError_eq_error_iff.mp hread
      exact (explained_readFields hkeys hvalues hg).of_cause_eq rfl
    · exact absurd hpure pure_ne_error
  cases shape with
  | any => exact absurd rfl hany
  | schema => exact hschema h
  | schemaOrBool => exact hschema h
  | schemaMap =>
      rcases bind_eq_error_iff.mp h with hread | ⟨ss, -, hpure⟩
      · exact explained_readSchemaMap hkeys hvalues hread
      · exact absurd hpure pure_ne_error
  | _ =>
      cases h
      exact .mismatch rfl

theorem failsExplained (v : Value) : FailsExplained v := by
  induction v using Value.byContents with
  | step v ihItems ihEntries =>
      intro field shape f h
      by_cases hany : shape = .any
      · rw [hany, readField_any] at h
        cases h
      rw [readField_untied hany] at h
      have hitems :
          ∀ items, v.items? = some items → ∀ w ∈ items, FailsExplained w ∧ v.Reaches w :=
        fun items hlist w hw => ⟨ihItems items hlist w hw, Value.reaches_item hlist hw⟩
      cases hv : v.untied with
      | map entries =>
          have hkeys : ∀ e ∈ entries, ¬e.1.HasText → v.HasLongKey := by
            rintro ⟨k, w⟩ he hlong
            exact ⟨entries, k, w, hv ▸ Value.reaches_untied v, he, hlong⟩
          rw [hv] at h
          exact explained_entries hkeys
            (fun e he => ⟨ihEntries entries hv e he, Value.reaches_value hv he⟩) hany h
      | list items =>
          rw [hv] at h
          exact explained_items (hitems items (by rw [Value.items?, hv])) hany h
      | tuple items =>
          rw [hv, readField_tuple hany] at h
          exact explained_items (hitems items (by rw [Value.items?, hv])) hany h
      | knot label container => exact absurd hv (v.untied_ne_knot label container)
      | cut label container =>
          have hcut : v.HasCut := ⟨label, container, hv ▸ Value.reaches_untied v⟩
          rw [hv] at h
          cases shape <;> first | exact absurd rfl hany | (cases h; exact .endless rfl hcut)
      | _ =>
          rw [hv] at h
          change readScalar field shape _ = .error f at h
          exact explained_readScalar h

/-- Reading accepts exactly the documents that conform to the table, and a failure is that of a
field: it is not known, or its value is of another kind. All else comes from a key that cannot be
written or from a container that lies inside of itself. -/
theorem ofFields_accepts_conforming (entries : List (Value × Value)) :
    ((∃ s, Schema.ofFields entries = .ok s) ↔ Conforms Value.HasText .schema (.map entries)) ∧
    ∀ f, Schema.ofFields entries = .error f → f.ExplainedBy (.map entries) := by
  constructor
  · rw [← exists_readSchema?_iff (readAsConforms _)]
    simp [readSchema?_map, Schema.ofFields]
  · intro f h
    exact explained_readSchema? (failsExplained _) (congrArg some h)

theorem readFields_properties_of_long {k : Value} (hlong : k.isWritable = false) :
    readFields {} [(.text "properties", .map [(k, .map [])])] = .error .longNumeral := by
  simp [readFields, ofField?_properties, readField, readSchemaMap, readSchema?, hlong,
    bind, Except.bind]

def longNumber : Int := Nat.cast (Nat.pow 10 mostDigits)

theorem isWritable_longNumber : isWritable longNumber = false := by
  have hdigits : longNumber.natAbs = Nat.pow 10 mostDigits := Int.natAbs_natCast _
  rw [isWritable, hdigits]
  exact decide_eq_false (Nat.lt_irrefl _)

def longKeyed : List (Value × Value) := [(.text "properties", .map [(.int longNumber, .map [])])]

theorem ofFields_longKeyed : Schema.ofFields longKeyed = .error .longNumeral :=
  readFields_properties_of_long isWritable_longNumber

/-- A map of schemas is refused for a key alone, and the failure is not that of a field. -/
theorem not_accepts_for_longKeyed : ¬∀ entries, (Value.map entries).isPlain = true →
    ((∃ s, Schema.ofFields entries = .ok s) ↔ Conforms (fun _ => True) .schema (.map entries)) ∧
    ∀ f, Schema.ofFields entries = .error f → (∃ field, f.cause = .unrecognizedField field) ∨
      ∃ field wanted found index, f.cause = .fieldMismatch field wanted found index := by
  intro h
  have hplain : (Value.map longKeyed).isPlain = true := by
    simp [longKeyed, distinctKeys]
  rcases (h longKeyed hplain).2 _ ofFields_longKeyed with ⟨_, hcause⟩ | ⟨_, _, _, _, hcause⟩
  · cases hcause
  · cases hcause

end TerseSchema
