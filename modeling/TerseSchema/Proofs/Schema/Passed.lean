import TerseSchema.Proofs.Canonical
/-!
# What a document passes on

A document is made of texts, truth values, lists and maps, but for what its schemas hold as it
was given to them: allowed values, extra fields of any shape, and counts. So what holds of a list
or a map as soon as it holds of what is in it, holds of a document as soon as it holds of these.
-/

namespace TerseSchema

def Value.allowedValues (v : Value) : List Value := v.items?.getD [v]

theorem Value.reaches_allowedValue {v w : Value} (hw : w ∈ v.allowedValues) : v.Reaches w := by
  rw [allowedValues] at hw
  cases hitems : v.items? with
  | none =>
      rw [hitems, Option.getD_none, List.mem_singleton] at hw
      exact hw ▸ .refl
  | some items =>
      rw [hitems, Option.getD_some] at hw
      exact reaches_item hitems hw

namespace Schema

variable {s : Schema} {v w : Value}

/-- The values that a node holds as they were given to it. -/
inductive Passes (s : Schema) : Value → Prop where
  | allowed {v w : Value} (henum : s.enum = some v) (hmem : w ∈ v.allowedValues) : Passes s w
  | extra {name : Text} {v : Value} (hextra : (name, v) ∈ s.extras)
      (hshape : Shape.ofField? name = some .any) : Passes s v

/-- The counts that a node holds. -/
inductive Counts (s : Schema) : Int → Prop where
  | extra {name : Text} {n : Int} (hextra : (name, .int n) ∈ s.extras)
      (hshape : Shape.ofField? name = some .count) : Counts s n

/-! ## Plain data -/

def HasPlainEnum (s : Schema) : Prop := ∀ v, s.enum = some v → v.isPlain = true

theorem EnumsFrom.hasPlainEnum (h : s.EnumsFrom v) (hplain : v.isPlain = true) :
    s.Everywhere HasPlainEnum :=
  h.imp fun _ ht allowed hallowed => Value.isPlain_of_reaches hplain (ht allowed hallowed)

end Schema

namespace Shorthand

open Schema

theorem hasPlainEnum_of_expand {v : Value} {s : Schema} (hplain : v.isPlain = true)
    (h : expand v = .ok s) : s.HasPlainEnum := by
  intro allowed hallowed
  rcases expand_cases h with ⟨token, -, hscalar⟩ | ⟨items, hitems, -, rfl⟩ |
    ⟨_, members, -, -, rfl⟩
  · obtain ⟨-, description, rfl⟩ := scalar_eq_ok hscalar
    cases hallowed
  · obtain rfl := Option.some.inj hallowed
    exact Value.isPlain_list_iff.mpr fun w hw => Value.isPlain_item hplain hitems hw
  · rw [enum_objectOf] at hallowed
    cases hallowed

theorem hasPlainEnum_redescribe {s : Schema} (h : s.HasPlainEnum) (description : Option Text) :
    (redescribe s description).HasPlainEnum := by
  cases description <;> exact h

theorem isPlain_withNull {v : Value} (h : v.isPlain = true) : (withNull v).isPlain = true := by
  cases v with
  | list items =>
      refine Value.isPlain_list_iff.mpr fun w hw => ?_
      rcases List.mem_append.mp hw with hw | hw
      · exact Value.isPlain_list_iff.mp h w hw
      · rw [List.mem_singleton.mp hw]
        rfl
  | _ => exact h

theorem hasPlainEnum_member {key : PropertyKey} {child : Schema} {member : Member}
    (h : child.HasPlainEnum) (hmember : key.member child = .ok member) :
    member.child.HasPlainEnum := by
  rcases member_eq_ok_iff.mp hmember with ⟨-, rfl⟩ | ⟨-, rfl⟩ | ⟨-, rfl⟩ |
    ⟨-, values, hvalues, rfl⟩ | ⟨-, rfl⟩
  · exact h
  · exact hasPlainEnum_redescribe h _
  · refine hasPlainEnum_redescribe ?_ _
    rintro _ ⟨⟩
  · refine hasPlainEnum_redescribe ?_ _
    rintro _ ⟨⟩
    cases key.optional
    · exact h values hvalues
    · exact isPlain_withNull (h values hvalues)
  · exact h

theorem everywhere_hasPlainEnum_expand {v : Value} {s : Schema} (hplain : v.isPlain = true)
    (h : expand v = .ok s) : s.Everywhere HasPlainEnum := by
  refine everywhere_of_parts_expand
    (fun w t hw => hasPlainEnum_of_expand (Value.isPlain_of_reaches hplain hw))
    ?_ h
  rintro entry member hentry ⟨-, child, hchild, hmember⟩
  exact hasPlainEnum_member
    (hasPlainEnum_of_expand (Value.isPlain_of_reaches hplain hentry) hchild) hmember

end Shorthand

namespace Schema

variable {s : Schema} {v w : Value}

theorem everywhere_hasPlainEnum_schemaOf (hplain : v.isPlain = true)
    (h : schemaOf v = .ok (some s)) :
    s.Everywhere HasPlainEnum :=
  everywhere_schemaOf (fun _ _ ht => ht)
    (fun _ ht => (enumsFrom_ofDocument hplain ht).hasPlainEnum hplain)
    (fun _ => Shorthand.everywhere_hasPlainEnum_expand hplain) h

end Schema

/-! ## Documents -/

/-- What holds of texts and truth values, and of a list or a map exactly when it holds
of all that is in it. -/
structure Value.IsInherited (P : Value → Prop) : Prop where
  text : ∀ s, P (.text s)
  bool : ∀ b, P (.bool b)
  list : ∀ items, P (.list items) ↔ ∀ v ∈ items, P v
  ofEntries :
    ∀ es : Entries Value, (Entries.names es).Nodup → (P (.ofEntries es) ↔ ∀ e ∈ es, P e.2)

namespace Value.IsInherited

variable {P : Value → Prop} {s : Schema} {v : Value}

theorem enumDocument_iff (hP : IsInherited P) (v : Value) :
    P (enumDocument v) ↔ ∀ w ∈ v.allowedValues, P w := by
  rw [allowedValues]
  cases hitems : v.items? with
  | none => rw [enumDocument_of_no_items hitems, Option.getD_none, List.forall_mem_singleton]
  | some items => rw [enumDocument_of_items? hitems, hP.list, Option.getD_some]

theorem texts (hP : IsInherited P) (names : List Text) : P (.list (names.map .text)) :=
  (hP.list _).mpr (List.forall_mem_map.mpr fun name _ => hP.text name)

theorem entries_iff (hP : IsInherited P) {ss : Entries Schema}
    (hnames : (Entries.names ss).Nodup) :
    P (.ofEntries (ss.map fun e => (e.1, e.2.document))) ↔ ∀ e ∈ ss, P e.2.document := by
  rw [hP.ofEntries _ (by rwa [Entries.names_map fun e : Text × Schema => e.2.document]),
    List.forall_mem_map]

theorem extraDocument_iff (hP : IsInherited P) {shape : Shape} (hv : shape.Keeps v) :
    P (extraDocument v) ↔
      (shape = .any → P v) ∧ (∀ n, shape = .count → v = .int n → P (.int n)) ∧
      ∀ t, v.Holds t → P t.document := by
  cases hv with
  | any hplain =>
      rw [extraDocument_of_isPlain hplain]
      simp [not_holds_of_isPlain hplain]
  | string s =>
      refine iff_of_true (hP.text s) ⟨by simp, by simp, ?_⟩
      rintro t ⟨⟩
  | count n =>
      refine ⟨fun h => ⟨by simp, ?_, ?_⟩, fun h => h.2.1 n rfl rfl⟩
      · rintro _ - ⟨⟩
        exact h
      · rintro t ⟨⟩
  | bool b =>
      refine iff_of_true (hP.bool b) ⟨by simp, by simp, ?_⟩
      rintro t ⟨⟩
  | schema s => simp [extraDocument]
  | schemas ss =>
      rw [extraDocument_list_schemas, hP.list, List.forall_mem_map]
      simp
  | @schemaMap ss hnames =>
      rw [extraDocument_map_schemas, hP.entries_iff hnames]
      simp [Prod.forall, @forall_comm Text]

theorem ownFields_iff (hP : IsInherited P) (hs : s.WellFormed) :
    (∀ e ∈ s.ownFields, P e.2) ↔
      (∀ v, s.enum = some v → ∀ w ∈ v.allowedValues, P w) ∧
      (∀ ps, s.properties = some ps → ∀ e ∈ ps, P e.2.document) ∧
      (∀ t, s.items = some t → P t.document) ∧ ∀ t, s.additional = some (.schema t) →
      P t.document := by
  have hproperties : (∀ ps, s.properties = some ps → P (.ofEntries (propertyDocuments ps))) ↔
      ∀ ps, s.properties = some ps → ∀ e ∈ ps, P e.2.document := by
    refine forall₂_congr fun ps hps => ?_
    rw [propertyDocuments_eq, hP.entries_iff (hs.properties ps hps)]
  have hadditional : (∀ a, s.additional = some a → P a.document) ↔
      ∀ t, s.additional = some (.schema t) → P t.document := by
    refine ⟨fun h t ht => h _ ht, fun h a ha => ?_⟩
    cases a with
    | forbidden => exact hP.bool false
    | schema t => exact h t ha
  simp only [Schema.ownFields, List.forall_mem_append, forall_mem_ite_isEmpty_iff,
    forall_mem_map_toList_iff,
    documentField, hP.text, hP.texts, hP.enumDocument_iff, hproperties, hadditional, or_true,
    true_and, and_true, and_assoc]

theorem extras_iff (hP : IsInherited P) (hs : s.WellFormed) :
    (∀ e ∈ s.extras.map fun e => (e.1, extraDocument e.2), P e.2) ↔
      ∀ name v, (name, v) ∈ s.extras → (Shape.ofField? name = some .any → P v) ∧
        (∀ n, Shape.ofField? name = some .count → v = .int n → P (.int n)) ∧ ∀ t, v.Holds t →
        P t.document := by
  rw [List.forall_mem_map, Prod.forall]
  refine forall₂_congr fun name v => forall_congr' fun hmem => ?_
  obtain ⟨shape, hshape, hkeeps⟩ := hs.extras name v hmem
  simp only [hP.extraDocument_iff hkeeps, hshape, Option.some.injEq]

/-- The document of a node inherits from what the node holds as it was given, and from the
documents of the schemas in it. -/
theorem fields_iff (hP : IsInherited P) (hs : s.WellFormed) :
    (∀ e ∈ s.fields, P e.2) ↔
      ((∀ v, s.Passes v → P v) ∧ ∀ n, s.Counts n → P (.int n)) ∧ ∀ t, s.Child t →
      P t.document := by
  rw [Schema.fields, List.forall_mem_append, hP.ownFields_iff hs, hP.extras_iff hs]
  constructor
  · rintro ⟨⟨henum, hproperties, hitems, hadditional⟩, hextras⟩
    refine ⟨⟨?_, ?_⟩, ?_⟩
    · rintro v (⟨hallowed, hmem⟩ | ⟨hextra, hshape⟩)
      · exact henum _ hallowed v hmem
      · exact (hextras _ v hextra).1 hshape
    · rintro n ⟨hextra, hshape⟩
      exact (hextras _ _ hextra).2.1 n hshape rfl
    · rintro t (⟨hps, hmem⟩ | ht | ht | ⟨hextra, hholds⟩)
      · exact hproperties _ hps _ hmem
      · exact hitems t ht
      · exact hadditional t ht
      · exact (hextras _ _ hextra).2.2 t hholds
  · rintro ⟨⟨hpasses, hcounts⟩, hchild⟩
    refine ⟨⟨fun v hv w hw => hpasses w (.allowed hv hw),
      fun ps hps e he => hchild e.2 (.property hps he),
      fun t ht => hchild t (.items ht), fun t ht => hchild t (.additional ht)⟩,
      fun name v hextra => ⟨?_, ?_, ?_⟩⟩
    · exact fun hshape => hpasses v (.extra hextra hshape)
    · rintro n hshape rfl
      exact hcounts n (.extra hextra hshape)
    · exact fun t hholds => hchild t (.extra hextra hholds)

/-- A document inherits from what its nodes hold as it was given to them,
and from nothing else. -/
theorem document_iff (hP : IsInherited P) (hs : s.Everywhere Schema.WellFormed) :
    P s.document ↔ s.Everywhere fun t => (∀ v, t.Passes v → P v) ∧ ∀ n, t.Counts n →
    P (.int n) := by
  induction s using Schema.byChildren with
  | step s ih =>
      rw [document_eq_ofEntries_fields hs.here, hP.ofEntries _ (nodup_names_fields hs.here),
        hP.fields_iff hs.here, Schema.everywhere_iff]
      exact and_congr_right fun _ => forall₂_congr fun t ht => ih t ht (hs.child ht)

end Value.IsInherited

theorem Value.isInherited_isPlain : IsInherited (·.isPlain = true) where
  text _ := rfl
  bool _ := rfl
  list _ := isPlain_list_iff
  ofEntries _ hnames := isPlain_ofEntries_iff.trans (and_iff_right hnames)

/-- The document of a schema is plain data if its allowed values are. -/
theorem Schema.isPlain_document {s : Schema} (hs : s.Everywhere WellFormed)
    (henum : s.Everywhere HasPlainEnum) : s.document.isPlain = true := by
  refine (Value.isInherited_isPlain.document_iff hs).mpr fun t ht => ⟨?_, fun _ _ => rfl⟩
  rintro v (⟨hallowed, hmem⟩ | ⟨hextra, hshape⟩)
  · exact Value.isPlain_of_reaches (henum t ht _ hallowed) (Value.reaches_allowedValue hmem)
  · obtain ⟨shape, hfield, hkeeps⟩ := (hs t ht).extras _ v hextra
    obtain rfl : Shape.any = shape := Option.some.inj (hshape.symm.trans hfield)
    cases hkeeps with
    | any hplain => exact hplain

end TerseSchema
