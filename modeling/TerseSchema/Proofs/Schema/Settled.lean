import TerseSchema.Proofs.Json.Fixed
import TerseSchema.Proofs.Json.Reading
import TerseSchema.Proofs.Schema.Canonical
/-!
# What JSON leaves of a schema

What the JSON text of a schema's document denotes is the document of a schema again: the same
fields at every depth, with the halves of surrogate pairs put together. If no two required names
change places by that, sorted names stay sorted.
-/

namespace TerseSchema

namespace Text

theorem isEmpty_paired (s : Text) : s.paired.isEmpty = s.isEmpty := by
  cases s with
  | nil => rfl
  | cons a s =>
      cases s with
      | nil => rfl
      | cons b s =>
          rw [paired]
          split <;> rfl

end Text

/-! ## Plain parts -/

namespace Json

variable {v x : Value}

/-- What the JSON text of a map denotes in place of one entry. -/
def PlainField (e f : Text × Value) : Prop := e.1.paired = f.1 ∧ plain e.2 = .ok f.2

theorem plain_list_eq_ok_iff {items : List Value} :
    plain (.list items) = .ok x ↔
      ∃ others, List.Forall₂ (fun v w => plain v = .ok w) items others ∧ x = .list others :=
  plainWithin_list_eq_ok_iff

theorem plain_ofEntries_eq_ok_iff {es : Entries Value} :
    plain (.ofEntries es) = .ok x ↔
      ∃ fs, List.Forall₂ PlainField es fs ∧ x = .ofEntries (Entries.putAll [] fs) := by
  have hentry : ∀ (e f : Text × Value), PlainEntry [] (.text e.1, e.2) f ↔ PlainField e f := by
    intro e f
    constructor
    · rintro ⟨key, hkey, hpaired, hvalue⟩
      obtain rfl := Except.ok.inj hkey
      exact ⟨hpaired, hvalue⟩
    · rintro ⟨hpaired, hvalue⟩
      exact ⟨e.1, rfl, hpaired, hvalue⟩
  rw [plain, Value.ofEntries, plainWithin_map_eq_ok_iff]
  simp only [List.forall₂_map_left_iff, hentry]

def Encodable (v : Value) : Prop := ∃ x, plain v = .ok x

theorem encodable_ofEntries_iff {es : Entries Value} :
    Encodable (.ofEntries es) ↔ ∀ e ∈ es, Encodable e.2 := by
  simp only [Encodable, plain_ofEntries_eq_ok_iff]
  constructor
  · rintro ⟨-, fs, hfs, -⟩ e he
    obtain ⟨f, -, -, hf⟩ := exists_right_of_forall₂ hfs he
    exact ⟨f.2, hf⟩
  · intro h
    have hentry : ∀ e ∈ es, ∃ f, PlainField e f := by
      intro e he
      obtain ⟨w, hw⟩ := h e he
      exact ⟨(e.1.paired, w), rfl, hw⟩
    obtain ⟨fs, hfs⟩ := exists_forall₂_iff.mpr hentry
    exact ⟨_, fs, hfs, rfl⟩

theorem encodable_texts (names : List Text) : Encodable (.list (names.map .text)) := by
  have hname : ∀ v ∈ names.map Value.text, ∃ w, plain v = .ok w :=
    List.forall_mem_map.mpr fun name _ => ⟨.text name.paired, rfl⟩
  obtain ⟨others, hothers⟩ := exists_forall₂_iff.mpr hname
  exact ⟨_, plain_list_eq_ok_iff.mpr ⟨others, hothers, rfl⟩⟩

theorem plain_texts {names : List Text} (h : plain (.list (names.map .text)) = .ok x) :
    x = .list ((names.map Text.paired).map .text) := by
  obtain ⟨others, hothers, rfl⟩ := plain_list_eq_ok_iff.mp h
  rw [List.forall₂_map_left_iff] at hothers
  refine congrArg Value.list ?_
  clear h
  induction hothers with
  | nil => rfl
  | cons hname _ ih =>
      obtain rfl := Except.ok.inj hname
      rw [ih]
      rfl

theorem untied_eq_null {around : List Nat} (h : plainWithin around v = .ok .null) :
    v.untied = .null := by
  induction v using Value.byParts generalizing around with
  | list items ih | tuple items ih =>
      obtain ⟨_, -, heq⟩ := plainWithin_list_eq_ok_iff.mp h
      cases heq
  | map entries ih =>
      obtain ⟨_, -, heq⟩ := plainWithin_map_eq_ok_iff.mp h
      cases heq
  | knot label container ih =>
      rw [plainWithin] at h
      split at h
      · cases h
      · exact ih h
  | leaf v hleaf =>
      cases v with
      | null => rfl
      | int n =>
          simp only [plainWithin, integer] at h
          split at h <;> cases h
      | float y => cases y <;> cases h
      | list | tuple | map | knot => cases hleaf
      | _ => cases h

theorem IsDenoted.enumDocument_eq_self (h : IsDenoted x) : enumDocument x = x := by
  cases h <;> rfl

end Json

/-! ## Settling -/

namespace Schema

/-- The schemas that describe a property or the items of a schema. -/
inductive Member (s : Schema) : Schema → Prop where
  | property {properties : List (Text × Schema)} {name : Text} {t : Schema}
      (hproperties : s.properties = some properties) (hmem : (name, t) ∈ properties) : Member s t
  | items {t : Schema} (hitems : s.items = some t) : Member s t

/-- What is reached from a schema through properties and items: the schemas whose required names
a canonical value has sorted. -/
abbrev Reaches : Schema → Schema → Prop := Relation.ReflTransGen Member

def InOrder (s : Schema) : Prop :=
  ∀ t, s.Reaches t → (t.required.map Text.paired).Pairwise (Text.isUpTo · · = true)

theorem InOrder.member {s t : Schema} (h : s.InOrder) (hmember : s.Member t) : t.InOrder :=
  fun u hu => h u (.head hmember hu)

def HasNoNull (s : Schema) : Prop := ∀ v, s.enum = some v → v.untied ≠ .null

def HasDenoted (s : Schema) : Prop := ∀ v, s.enum = some v → Json.IsDenoted v

/-- One schema is what JSON leaves of the other. -/
structure SettlesTo (s t : Schema) : Prop where
  plain : Json.plain s.document = .ok t.document
  wellFormed : t.Everywhere WellFormed
  denoted : t.Everywhere HasDenoted
  type : t.type = s.type.paired
  sorted : s.InOrder → t.sorted = t

/-- If there is a JSON text of a schema's document, it denotes the document of a schema. -/
def Settles (s : Schema) : Prop :=
  ∀ w, Json.plain s.document = .ok w → ∃ t, s.SettlesTo t ∧ w = t.document

end Schema

open Json Schema

/-! ### Nested schemas -/

theorem exists_settled_list {ss : List Schema} {w : Value} (hss : ∀ s ∈ ss, s.Settles)
    (h : plain (.list (ss.map document)) = .ok w) :
    ∃ ts, List.Forall₂ SettlesTo ss ts ∧ w = .list (ts.map document) := by
  obtain ⟨others, hothers, rfl⟩ := plain_list_eq_ok_iff.mp h
  rw [List.forall₂_map_left_iff] at hothers
  obtain ⟨ts, hts, rfl⟩ := exists_forall₂_map hothers hss
  exact ⟨ts, hts, rfl⟩

theorem exists_settled_map {ss : Entries Schema} {w : Value} (hss : ∀ e ∈ ss, e.2.Settles)
    (h : plain (.ofEntries (ss.map fun e => (e.1, e.2.document))) = .ok w) :
    ∃ ts : Entries Schema, (Entries.names ts).Nodup ∧ (∀ f ∈ ts, ∃ e ∈ ss, e.2.SettlesTo f.2) ∧
      w = .ofEntries (ts.map fun f => (f.1, f.2.document)) := by
  obtain ⟨fs, hfs, rfl⟩ := plain_ofEntries_eq_ok_iff.mp h
  rw [List.forall₂_map_left_iff] at hfs
  obtain ⟨ts, hts, rfl⟩ := exists_forall₂_map
    (Q := fun e f : Text × Schema => e.2.SettlesTo f.2)
      (g := fun f => (f.1, f.2.document)) hfs (by
        rintro e he ⟨name, w⟩ ⟨-, hw⟩
        obtain ⟨t, ht, rfl⟩ := hss e he w hw
        exact ⟨(name, t), ht, rfl⟩)
  refine ⟨Entries.putAll [] ts, Entries.nodup_names_putAll ts List.nodup_nil, fun f hf => ?_, ?_⟩
  · rcases Entries.mem_putAll hf with hnil | hmem
    · cases hnil
    · obtain ⟨e, he, hst⟩ := exists_left_of_forall₂ hts hmem
      exact ⟨e, he, hst⟩
  · exact congrArg Value.ofEntries (Entries.putAll_map document [] ts)

theorem paired_field {field : Text} {shape : Shape} (h : Shape.ofField? field = some shape) :
    field.paired = field := by
  have htable : ∀ e ∈ fieldShapes, e.1.paired = e.1 := by decide
  exact htable _ (Entries.mem_of_get? h)

/-- What JSON leaves of an extra field is kept in the same shape. -/
theorem exists_settled_extra {shape : Shape} {v w : Value} (hv : shape.Keeps v)
    (hholds : ∀ s, v.Holds s → s.Settles) (h : plain (extraDocument v) = .ok w) :
    ∃ u, shape.Keeps u ∧ w = extraDocument u ∧ ∀ t, u.Holds t →
    ∃ s, v.Holds s ∧ s.SettlesTo t := by
  cases hv with
  | any hplain =>
      have hw := (isDenoted_of_plainWithin h).isPlain
      exact ⟨w, .any hw, (extraDocument_of_isPlain hw).symm, fun t ht =>
        absurd ht (not_holds_of_isPlain hw t)⟩
  | string s =>
      obtain rfl := Except.ok.inj h
      exact ⟨_, .string s.paired, rfl, by rintro t ⟨⟩⟩
  | count n =>
      obtain ⟨-, -, heq⟩ := bind_eq_ok_iff.mp h
      obtain rfl := Except.ok.inj heq
      exact ⟨_, .count n, rfl, by rintro t ⟨⟩⟩
  | bool b =>
      obtain rfl := Except.ok.inj h
      exact ⟨_, .bool b, rfl, by rintro t ⟨⟩⟩
  | schema s =>
      obtain ⟨t, ht, rfl⟩ := hholds s (.schema s) w h
      refine ⟨_, .schema t, rfl, fun u hu => ?_⟩
      obtain rfl := Value.holds_schema_iff.mp hu
      exact ⟨s, .schema s, ht⟩
  | schemas ss =>
      rw [extraDocument_list_schemas] at h
      obtain ⟨ts, hts, rfl⟩ := exists_settled_list
        (fun s hs => hholds s (Value.holds_list_map_schema_iff.mpr hs)) h
      refine ⟨_, .schemas ts, (extraDocument_list_schemas ts).symm, fun t ht => ?_⟩
      obtain ⟨s, hs, hst⟩ := exists_left_of_forall₂ hts (Value.holds_list_map_schema_iff.mp ht)
      exact ⟨s, Value.holds_list_map_schema_iff.mpr hs, hst⟩
  | @schemaMap ss hnames =>
      rw [extraDocument_map_schemas] at h
      obtain ⟨ts, hnodup, hts, rfl⟩ := exists_settled_map
        (fun e he => hholds e.2 (Value.holds_ofEntries_map_schema_iff.mpr ⟨e.1, he⟩)) h
      refine ⟨_, .schemaMap hnodup, (extraDocument_map_schemas ts).symm, fun t ht => ?_⟩
      obtain ⟨name, hmem⟩ := Value.holds_ofEntries_map_schema_iff.mp ht
      obtain ⟨e, he, hst⟩ := hts (name, t) hmem
      exact ⟨e.2, Value.holds_ofEntries_map_schema_iff.mpr ⟨e.1, he⟩, hst⟩

/-! ### Fields -/

/-- What JSON leaves of one field is one field. -/
theorem exists_field_of_one {name : String} {v : Value} {fs : Entries Value}
    (h : List.Forall₂ PlainField [documentField name v] fs) :
    ∃ w, plain v = .ok w ∧ fs = [documentField name w] := by
  obtain ⟨⟨key, w⟩, after, ⟨hkey, hw⟩, hafter, rfl⟩ := List.forall₂_cons_left_iff.mp h
  obtain rfl := List.forall₂_nil_left_iff.mp hafter
  obtain rfl : (name : Text) = key := (paired_ofString name).symm.trans hkey
  exact ⟨w, hw, rfl⟩

theorem field_of_text {name : String} {s : Text} {fs : Entries Value}
    (h : List.Forall₂ PlainField (if s.isEmpty then [] else [documentField name (.text s)]) fs) :
    fs = if s.paired.isEmpty then [] else [documentField name (.text s.paired)] := by
  rw [Text.isEmpty_paired]
  split at h <;> rename_i hempty
  · rw [if_pos hempty]
    exact List.forall₂_nil_left_iff.mp h
  · rw [if_neg hempty]
    obtain ⟨w, hw, rfl⟩ := exists_field_of_one h
    obtain rfl := Except.ok.inj hw
    rfl

theorem field_of_names {names : List Text} {fs : Entries Value}
    (h : List.Forall₂ PlainField (if names.isEmpty then []
      else [documentField "required" (.list (names.map .text))]) fs) :
    fs = if (names.map Text.paired).isEmpty then []
      else [documentField "required" (.list ((names.map Text.paired).map .text))] := by
  rw [List.isEmpty_map]
  split at h <;> rename_i hempty
  · rw [if_pos hempty]
    exact List.forall₂_nil_left_iff.mp h
  · rw [if_neg hempty]
    obtain ⟨w, hw, rfl⟩ := exists_field_of_one h
    obtain rfl := plain_texts hw
    rfl

/-- A field that a schema may have or not, and what JSON leaves of it. -/
theorem exists_field {α β : Type} {Q : α → β → Prop} {name : String} {f : α → Value}
    {g : β → Value} {x : Option α} {fs : Entries Value}
    (hone : ∀ a, x = some a → ∀ w, plain (f a) = .ok w → ∃ b, Q a b ∧ w = g b)
    (h : List.Forall₂ PlainField (x.map fun a => documentField name (f a)).toList fs) :
    ∃ y, Option.Rel Q x y ∧ fs = (y.map fun b => documentField name (g b)).toList := by
  cases x with
  | none => exact ⟨none, .none, List.forall₂_nil_left_iff.mp h⟩
  | some a =>
      obtain ⟨w, hw, rfl⟩ := exists_field_of_one h
      obtain ⟨b, hab, rfl⟩ := hone a rfl w hw
      exact ⟨some b, .some hab, rfl⟩

def AdditionalSettles (a b : Additional) : Prop :=
  ∀ t, b = .schema t → ∃ s, a = .schema s ∧ s.SettlesTo t

theorem exists_settled_additional {a : Additional} {w : Value}
    (ha : ∀ s, a = .schema s → s.Settles) (h : plain a.document = .ok w) :
    ∃ b, AdditionalSettles a b ∧ w = b.document := by
  cases a with
  | forbidden =>
      obtain rfl := Except.ok.inj h
      exact ⟨.forbidden, by rintro t ⟨⟩, rfl⟩
  | schema s =>
      obtain ⟨t, ht, rfl⟩ := ha s rfl w h
      refine ⟨.schema t, ?_, rfl⟩
      rintro _ ⟨⟩
      exact ⟨s, rfl, ht⟩

theorem exists_settled_extras {extras fs : Entries Value}
    (hextras : ∀ e ∈ extras, ∃ shape, Shape.ofField? e.1 = some shape ∧ shape.Keeps e.2)
    (hholds : ∀ e ∈ extras, ∀ s, e.2.Holds s → s.Settles)
    (h : List.Forall₂ PlainField (extras.map fun e => (e.1, extraDocument e.2)) fs) :
    ∃ others : Entries Value, fs = others.map (fun e => (e.1, extraDocument e.2)) ∧
      Entries.names others = Entries.names extras ∧
      ∀ f ∈ others, (∃ shape, Shape.ofField? f.1 = some shape ∧ shape.Keeps f.2) ∧
        ∀ t, f.2.Holds t → ∃ e ∈ extras, ∃ s, e.2.Holds s ∧ s.SettlesTo t := by
  rw [List.forall₂_map_left_iff] at h
  obtain ⟨others, hothers, rfl⟩ := exists_forall₂_map
    (Q := fun e f : Text × Value => f.1 = e.1 ∧
      (∃ shape, Shape.ofField? f.1 = some shape ∧ shape.Keeps f.2) ∧
      ∀ t, f.2.Holds t → ∃ s, e.2.Holds s ∧ s.SettlesTo t)
    (g := fun f => (f.1, extraDocument f.2)) h (by
      rintro ⟨name, v⟩ he ⟨key, w⟩ ⟨hkey, hw⟩
      obtain ⟨shape, hshape, hkeeps⟩ := hextras _ he
      obtain ⟨u, hu, rfl, hsettled⟩ := exists_settled_extra hkeeps (hholds _ he) hw
      obtain rfl : name = key := (paired_field hshape).symm.trans hkey
      exact ⟨(name, u), ⟨rfl, ⟨shape, hshape, hu⟩, hsettled⟩, rfl⟩)
  refine ⟨others, rfl, (Entries.names_eq_of_forall₂ (R := fun _ _ => True)
    (hothers.imp fun _ _ hef => ⟨hef.1.symm, trivial⟩)).symm, fun f hf => ?_⟩
  obtain ⟨e, he, -, hkeeps, hsettled⟩ := exists_left_of_forall₂ hothers hf
  exact ⟨hkeeps, fun t ht => ⟨e, he, hsettled t ht⟩⟩

/-! ### Schemas -/

theorem untied_eq_null_of_enumDocument {v : Value} (h : (enumDocument v).untied = .null) :
    v.untied = .null := by
  rw [enumDocument] at h
  split at h
  · cases h
  · cases h
  · exact h

/-- A schema whose required names are sorted, as those of its properties and items are, stays as
it is when it is sorted. -/
theorem sorted_eq_self {s : Schema} (hrequired : s.required.Pairwise (Text.isUpTo · · = true))
    (hmembers : ∀ t, s.Member t → t.sorted = t) : s.sorted = s := by
  have hproperties : s.properties.map sortedProperties = s.properties := by
    refine (Option.map_congr fun ps hps => ?_).trans (Option.map_id_apply ..)
    rw [sortedProperties_eq, id]
    refine (List.map_congr_left fun e he => ?_).trans (List.map_id ps)
    rw [hmembers e.2 (.property hps he), id]
  have hitems : s.items.map Schema.sorted = s.items := by
    refine (Option.map_congr fun t ht => ?_).trans (Option.map_id_apply ..)
    rw [hmembers t (.items ht), id]
  have hnames : sortNames s.required = s.required := List.mergeSort_of_pairwise hrequired
  rw [sorted_eq, hproperties, hitems, hnames]
  cases s
  rfl

structure PlacesSettle (s t : Schema) : Prop where
  type : t.type = s.type.paired
  enum : Option.Rel (fun v w => plain (enumDocument v) = .ok w) s.enum t.enum
  properties : Option.Rel (fun ps ts : Entries Schema =>
    (Entries.names ts).Nodup ∧ ∀ f ∈ ts, ∃ e ∈ ps, e.2.SettlesTo f.2) s.properties t.properties
  items : Option.Rel SettlesTo s.items t.items
  required : t.required = s.required.map Text.paired
  additional : Option.Rel AdditionalSettles s.additional t.additional
  names : Entries.names t.extras = Entries.names s.extras
  extras : ∀ f ∈ t.extras, (∃ shape, Shape.ofField? f.1 = some shape ∧ shape.Keeps f.2) ∧
    ∀ t, f.2.Holds t → ∃ e ∈ s.extras, ∃ u, e.2.Holds u ∧ u.SettlesTo t

variable {s t : Schema}

theorem exists_placesSettle {fs : Entries Value} (hs : s.WellFormed)
    (hchild : ∀ t, s.Child t → t.Settles) (h : List.Forall₂ PlainField s.fields fs) :
    ∃ t, PlacesSettle s t ∧ fs = t.fields := by
  simp only [Schema.fields, Schema.ownFields, forall₂_append_left_iff] at h
  obtain ⟨_, _, ⟨_, _, ⟨_, _, ⟨_, _, ⟨_, _, ⟨_, _, ⟨_, _, htype, hdescription, rfl⟩, henum, rfl⟩,
    hproperties, rfl⟩, hitems, rfl⟩, hrequired, rfl⟩, hadditional, rfl⟩, hextras, rfl⟩ := h
  obtain rfl := field_of_text htype
  obtain rfl := field_of_text hdescription
  obtain rfl := field_of_names hrequired
  obtain ⟨enum, hallowed, rfl⟩ := exists_field
    (Q := fun v w => plain (enumDocument v) = .ok w) (g := enumDocument)
    (fun v _ w hw => ⟨w, hw, (isDenoted_of_plainWithin hw).enumDocument_eq_self.symm⟩) henum
  obtain ⟨properties, hnamed, rfl⟩ := exists_field
    (Q := fun ps ts : Entries Schema => (Entries.names ts).Nodup ∧ ∀ f ∈ ts, ∃ e ∈ ps,
      e.2.SettlesTo f.2)
    (g := fun ts => .ofEntries (propertyDocuments ts)) (fun ps hps w hw => by
      rw [propertyDocuments_eq] at hw
      obtain ⟨ts, hnodup, hts, rfl⟩ :=
        exists_settled_map (fun e he => hchild e.2 (.property hps he)) hw
      exact ⟨ts, ⟨hnodup, hts⟩, by rw [propertyDocuments_eq]⟩) hproperties
  obtain ⟨items, hitem, rfl⟩ := exists_field (Q := SettlesTo) (g := document)
    (fun t ht => hchild t (.items ht)) hitems
  obtain ⟨additional, hothers, rfl⟩ := exists_field
    (Q := AdditionalSettles) (g := Additional.document) (fun a ha w =>
      exists_settled_additional fun t ht =>
        hchild t (.additional (ha.trans (ht ▸ rfl)))) hadditional
  obtain ⟨extras, rfl, hnames, hsettled⟩ := exists_settled_extras
    (fun e he => hs.extras e.1 e.2 he) (fun e he t ht => hchild t (.extra he ht)) hextras
  exact ⟨⟨s.type.paired, s.description.paired, enum, properties, items,
    s.required.map Text.paired,
    additional, extras⟩, ⟨rfl, hallowed, hnamed, hitem, rfl, hothers, hnames, hsettled⟩, rfl⟩

namespace PlacesSettle

theorem wellFormed (h : PlacesSettle s t) (hs : s.WellFormed) (hnull : s.HasNoNull) :
    t.WellFormed where
  enum := by
    intro hallowed
    obtain ⟨v, hv, hplain⟩ := exists_eq_some_of_rel (hallowed ▸ h.enum)
    exact hnull v hv (untied_eq_null_of_enumDocument (untied_eq_null hplain))
  properties := by
    intro ts hts
    obtain ⟨-, -, hnames, -⟩ := exists_eq_some_of_rel (hts ▸ h.properties)
    exact hnames
  names := h.names ▸ hs.names
  notOwn := h.names ▸ hs.notOwn
  extras name v hmem := (h.extras (name, v) hmem).1

theorem hasDenoted (h : PlacesSettle s t) : t.HasDenoted := by
  intro v hv
  obtain ⟨u, -, hplain⟩ := exists_eq_some_of_rel (hv ▸ h.enum)
  exact isDenoted_of_plainWithin hplain

/-- What a schema is left with describes properties and items that are left of its own. -/
theorem exists_member {u : Schema} (h : PlacesSettle s t) (hmember : t.Member u) :
    ∃ v, s.Member v ∧ v.SettlesTo u := by
  cases hmember with
  | property hproperties hmem =>
      obtain ⟨ps, hps, -, hts⟩ := exists_eq_some_of_rel (hproperties ▸ h.properties)
      obtain ⟨e, he, hu⟩ := hts _ hmem
      exact ⟨e.2, .property hps he, hu⟩
  | items hitems =>
      obtain ⟨v, hv, hu⟩ := exists_eq_some_of_rel (hitems ▸ h.items)
      exact ⟨v, .items hv, hu⟩

theorem exists_child {u : Schema} (h : PlacesSettle s t) (hchild : t.Child u) :
    ∃ v, SettlesTo v u := by
  cases hchild with
  | property hproperties hmem =>
    exact (h.exists_member (.property hproperties hmem)).imp fun _ => And.right
  | items hitems => exact (h.exists_member (.items hitems)).imp fun _ => And.right
  | additional hadditional =>
      obtain ⟨a, -, hsettled⟩ := exists_eq_some_of_rel (hadditional ▸ h.additional)
      obtain ⟨v, -, hv⟩ := hsettled u rfl
      exact ⟨v, hv⟩
  | extra hextra hholds =>
      obtain ⟨-, -, v, -, hv⟩ := (h.extras _ hextra).2 u hholds
      exact ⟨v, hv⟩

theorem sorted (h : PlacesSettle s t) (horder : s.InOrder) : t.sorted = t := by
  refine sorted_eq_self (h.required ▸ horder s .refl) fun u hu => ?_
  obtain ⟨v, hv, hvu⟩ := h.exists_member hu
  exact hvu.sorted (horder.member hv)

end PlacesSettle

/-- JSON leaves the document of a schema as the document of a schema, as long as no
allowed values are null. -/
theorem settles (hs : s.Everywhere WellFormed) (hnull : s.Everywhere HasNoNull) : s.Settles := by
  induction s using Schema.byChildren with
  | step s ih =>
      have hchild : ∀ t, s.Child t → t.Settles :=
        fun t ht => ih t ht (hs.child ht) (hnull.child ht)
      intro w hw
      have hfields := hw
      rw [document_eq_ofEntries_fields hs.here] at hfields
      obtain ⟨_, hplain, rfl⟩ := plain_ofEntries_eq_ok_iff.mp hfields
      obtain ⟨t, ht, rfl⟩ := exists_placesSettle hs.here hchild hplain
      have hwellFormed := ht.wellFormed hs.here hnull.here
      have hput : Entries.putAll [] t.fields = t.fields :=
        @Entries.putAll_of_nodup _ [] t.fields (nodup_names_fields hwellFormed)
      rw [hput, ← document_eq_ofEntries_fields hwellFormed] at hw ⊢
      refine ⟨t, ⟨hw, ?_, ?_, ht.type, ht.sorted⟩, rfl⟩
      · refine Schema.everywhere_iff.mpr ⟨hwellFormed, fun u hu => ?_⟩
        obtain ⟨v, hv⟩ := ht.exists_child hu
        exact hv.wellFormed
      · refine Schema.everywhere_iff.mpr ⟨ht.hasDenoted, fun u hu => ?_⟩
        obtain ⟨v, hv⟩ := ht.exists_child hu
        exact hv.denoted

end TerseSchema
