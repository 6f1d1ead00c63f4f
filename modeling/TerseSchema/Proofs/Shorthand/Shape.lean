import TerseSchema.Proofs.Shorthand.Output
/-!
# The shape of an expansion

What shorthand can and cannot say. Every node of an expansion is of one of a few kinds: a scalar
or anything, an enumeration, an object, or an array. An object names its required properties
among its properties, and an array is found nowhere but right under a property.
-/

namespace TerseSchema.Shorthand

open TerseSchema.Text

def nodeTypes : List Text :=
  ["", "string", "boolean", "null", "number", "integer", "object", "array"]

/-- The shape of a node of an expansion. -/
structure NodeShape (s : Schema) : Prop where
  extras : s.extras = []
  type : s.type ∈ nodeTypes
  properties : s.type = "object" ↔ s.properties ≠ none
  additional : s.type = "object" ↔ s.additional ≠ none
  items : s.type = "array" ↔ s.items ≠ none
  /-- An array is neither the item of another nor what further properties are. -/
  itemType : ∀ t, s.items = some t → t.type ≠ "array"
  additionalType : ∀ t, s.additional = some (.schema t) → t.type ≠ "array"
  enum : ∀ v, s.enum = some v → s.type = [] ∧ s.properties = none ∧ s.items = none ∧
    ∃ items, v = .list items ∧ items ≠ []
  notRequired : s.type ≠ "object" → s.required = []
  required : s.required.Nodup
  requiredName : ∀ name ∈ s.required, name ≠ [] ∧ name.getLast? ≠ some (.char '?')
  requiredProperty : ∀ name ∈ s.required, ∃ properties,
    s.properties = some properties ∧ name ∈ Entries.names properties
  propertyName : ∀ properties, s.properties = some properties →
    ∀ name ∈ Entries.names properties, .char '(' ∉ name
  description : IsTrimmed s.description

/-! ## Keys -/

namespace PropertyKey

theorem prefix_name_ofBase (base : Text) : (ofBase base).name <+: base := by
  rw [ofBase]
  split
  · exact List.dropLast_prefix base
  · exact List.prefix_refl base

theorem getLast?_name_ofBase {base : Text} (h : (ofBase base).optional = false) :
    (ofBase base).name.getLast? ≠ some (.char '?') := by
  rw [ofBase] at h ⊢
  split at h
  · simp at h
  · next hmark => rwa [if_neg hmark]

/-- What a key is decoded to, unless it is the wildcard alone. -/
theorem decode_cases (text : Text) :
    decode text = { name := [], modifier := some wildcard } ∨
    ∃ base, .char '(' ∉ base ∧
      (decode text = ofBase base ∨
        ∃ inner, decode text = (ofBase base).withParenthetical inner) := by
  by_cases hwildcard : text = wildcard
  · exact .inl (by simp [decode, hwildcard])
  · refine .inr ⟨(splitAtFirst (.char '(') text).1, not_mem_splitAtFirst _ _, ?_⟩
    cases hinner : (splitAtFirst (.char '(') text).2 with
    | none => exact .inl (by simp [decode, hwildcard, hinner])
    | some inner => exact .inr ⟨inner, by simp [decode, hwildcard, hinner]⟩

theorem not_mem_name_decode (text : Text) : .char '(' ∉ (decode text).name := by
  rcases decode_cases text with h | ⟨base, hbase, h | ⟨inner, h⟩⟩ <;> rw [h]
  · simp
  · exact fun hmem => hbase ((prefix_name_ofBase base).subset hmem)
  · exact fun hmem => hbase ((prefix_name_ofBase base).subset hmem)

theorem name_of_isRequired {text : Text} (h : (decode text).isRequired = true) :
    (decode text).name ≠ [] ∧ (decode text).name.getLast? ≠ some (.char '?') := by
  simp only [isRequired, Bool.and_eq_true, Bool.not_eq_true', List.isEmpty_eq_false_iff] at h
  obtain ⟨⟨hoptional, hname⟩, -⟩ := h
  refine ⟨hname, ?_⟩
  rcases decode_cases text with heq | ⟨base, -, heq | ⟨inner, heq⟩⟩ <;>
    rw [heq] at hoptional hname ⊢
  · simp at hname
  · exact getLast?_name_ofBase hoptional
  · exact getLast?_name_ofBase hoptional

theorem isTrimmed_description_decode {text description : Text}
    (h : (decode text).description = some description) : IsTrimmed description := by
  rcases decode_cases text with heq | ⟨base, -, heq | ⟨inner, heq⟩⟩ <;> rw [heq] at h
  · simp at h
  · rw [ofBase] at h
    split at h <;> simp at h
  · obtain ⟨words, -, rfl⟩ := Option.map_eq_some_iff.mp h
    exact isTrimmed_strip words

end PropertyKey

/-! ## Members -/

inductive Member.Allowed : Member → Prop where
  | property {name : Text} {required : Bool} {child : Schema} (hname : .char '(' ∉ name)
      (hrequired : required = true → name ≠ [] ∧ name.getLast? ≠ some (.char '?')) :
      Allowed (.property name required child)
  | wildcard {child : Schema} (htype : child.type ≠ "array") : Allowed (.wildcard child)

theorem type_ne_array_of_expand {v : Value} {s : Schema} (h : expand v = .ok s) :
    s.type ≠ "array" := by
  have hnil : ([] : Text) ≠ "array" := by decide
  rcases expand_cases h with ⟨token, -, hscalar⟩ | ⟨items, -, -, rfl⟩ | ⟨_, members, -, -, rfl⟩
  · obtain ⟨hname, description, rfl⟩ := scalar_eq_ok hscalar
    have htable : ∀ name ∈ scalarNames, name ≠ "array" := by decide
    split
    · exact hnil
    · exact htable _ hname
  · exact hnil
  · rw [type_objectOf]
    decide

theorem allowed_of_entryExpands {entry : Value × Value} {member : Member}
    (h : EntryExpands entry member) : member.Allowed := by
  obtain ⟨-, child, hchild, hmember⟩ := h
  have hname := PropertyKey.not_mem_name_decode entry.1.keyText
  have hrequired := @PropertyKey.name_of_isRequired entry.1.keyText
  rcases member_eq_ok_iff.mp hmember with ⟨-, rfl⟩ | ⟨-, rfl⟩ | ⟨-, rfl⟩ |
    ⟨-, values, -, rfl⟩ | ⟨-, rfl⟩
  · exact .property hname hrequired
  · exact .property hname hrequired
  · exact .property hname hrequired
  · exact .property hname hrequired
  · exact .wildcard (type_ne_array_of_expand hchild)

/-! ## Objects -/

theorem mem_names_put_iff {α : Type} {name other : Text} {value : α} {es : Entries α} :
    other ∈ Entries.names (Entries.put name value es) ↔
    other = name ∨ other ∈ Entries.names es := by
  rw [Entries.names_put]
  split
  · next hmem =>
      constructor
      · exact .inr
      · rintro (rfl | h)
        · exact hmem
        · exact h
  · simp [or_comm]

/-- What stays true of an object while its members are added. -/
structure ObjectShape (s : Schema) (ps : Entries Schema) (a : Additional) : Prop where
  blank : s.description = [] ∧ s.enum = none ∧ s.items = none ∧ s.extras = []
  type : s.type = "object"
  properties : s.properties = some ps
  additional : s.additional = some a
  additionalType : ∀ t, a = .schema t → t.type ≠ "array"
  propertyName : ∀ name ∈ Entries.names ps, .char '(' ∉ name
  requiredName : ∀ name ∈ s.required, name ≠ [] ∧ name.getLast? ≠ some (.char '?')
  requiredProperty : ∀ name ∈ s.required, name ∈ Entries.names ps

theorem objectShape_emptyObject : ObjectShape emptyObject [] .forbidden where
  blank := ⟨rfl, rfl, rfl, rfl⟩
  type := rfl
  properties := rfl
  additional := rfl
  additionalType := by simp
  propertyName := by simp
  requiredName := by simp [emptyObject]
  requiredProperty := by simp [emptyObject]

theorem exists_objectShape_addMember {s : Schema} {ps : Entries Schema} {a : Additional}
    {member : Member} (hs : ObjectShape s ps a) (hmember : member.Allowed) :
    ∃ ps a, ObjectShape (addMember s member) ps a := by
  cases hmember with
  | @wildcard child htype =>
      refine ⟨ps, .schema child, { hs with additional := rfl, additionalType := ?_ }⟩
      rintro t ⟨⟩
      exact htype
  | @property name required child hname hrequired =>
      have hnew : ∀ other ∈ (addMember s (.property name required child)).required,
          (other = name ∧ required = true) ∨ other ∈ s.required := by
        intro other hother
        simp only [addMember] at hother
        split at hother
        · next hadd =>
            rw [Bool.and_eq_true] at hadd
            rcases List.mem_append.mp hother with hold | hother
            · exact .inr hold
            · exact .inl ⟨List.mem_singleton.mp hother, hadd.1⟩
        · exact .inr hother
      refine ⟨Entries.put name child ps, a, { hs with
        properties := by simp [addMember, hs.properties], propertyName := ?_, requiredName := ?_,
        requiredProperty := ?_ }⟩
      · intro other hother
        rcases mem_names_put_iff.mp hother with rfl | hold
        · exact hname
        · exact hs.propertyName other hold
      · intro other hother
        rcases hnew other hother with ⟨rfl, hmark⟩ | hold
        · exact hrequired hmark
        · exact hs.requiredName other hold
      · intro other hother
        rw [mem_names_put_iff]
        exact (hnew other hother).imp And.left (hs.requiredProperty other)

theorem ObjectShape.nodeShape {s : Schema} {ps : Entries Schema} {a : Additional}
    (hs : ObjectShape s ps a) (hrequired : s.required.Nodup) : NodeShape s := by
  obtain ⟨hdescription, henum, hitems, hextras⟩ := hs.blank
  have harray : s.type ≠ "array" := by
    rw [hs.type]
    decide
  exact {
    extras := hextras
    type := by
      rw [hs.type]
      decide
    properties := by simp [hs.type, hs.properties]
    additional := by simp [hs.type, hs.additional]
    items := by simp [harray, hitems]
    itemType := by simp [hitems]
    additionalType := by simpa [hs.additional] using hs.additionalType
    enum := by simp [henum]
    notRequired := fun h => absurd hs.type h
    required := hrequired
    requiredName := hs.requiredName
    requiredProperty := fun name hname => ⟨ps, hs.properties, hs.requiredProperty name hname⟩
    propertyName := by
      intro others hothers
      obtain rfl := Option.some.inj (hs.properties.symm.trans hothers)
      exact hs.propertyName
    description := by
      rw [hdescription]
      exact isTrimmed_nil }

theorem nodeShape_objectOf {members : List Member}
    (hmembers : ∀ member ∈ members, member.Allowed)
    (hrequired : (objectOf members).required.Nodup) : NodeShape (objectOf members) := by
  have hshape : ∃ ps a, ObjectShape (objectOf members) ps a := by
    apply objectOf_induction (P := fun s => ∃ ps a, ObjectShape s ps a)
    · exact ⟨_, _, objectShape_emptyObject⟩
    · rintro s ⟨ps, a, hs⟩ member hmem
      exact exists_objectShape_addMember hs (hmembers member hmem)
  obtain ⟨ps, a, hs⟩ := hshape
  exact hs.nodeShape hrequired

/-! ## Values -/

theorem isTrimmed_description_scalar {token : Text} {s : Schema} (h : scalar token = .ok s) :
    IsTrimmed s.description := by
  simp only [scalar] at h
  split at h
  · cases h
    cases (splitAtFirst (CodePoint.char ',') token).2 with
    | none => exact isTrimmed_nil
    | some words => exact isTrimmed_strip words
  · cases h

/-- A node of which nothing is said but its type and its description. -/
theorem nodeShape_typed {type description : Text} (htype : type ∈ nodeTypes)
    (hobject : type ≠ "object") (harray : type ≠ "array")
    (hdescription : IsTrimmed description) :
    NodeShape { type, description } where
  extras := rfl
  type := htype
  properties := by simp [hobject]
  additional := by simp [hobject]
  items := by simp [harray]
  itemType := by simp
  additionalType := by simp
  enum := by simp
  notRequired := by simp
  required := by simp
  requiredName := by simp
  requiredProperty := by simp
  propertyName := by simp
  description := hdescription

theorem nodeShape_scalar {token : Text} {s : Schema} (h : scalar token = .ok s) :
    NodeShape s := by
  have hdescription := isTrimmed_description_scalar h
  obtain ⟨hname, description, rfl⟩ := scalar_eq_ok h
  have htable : ∀ name ∈ scalarNames, (if name = "any" then [] else name) ∈ nodeTypes ∧
      (if name = "any" then [] else name) ≠ "object" ∧
      (if name = "any" then [] else name) ≠ "array" := by decide
  obtain ⟨htype, hobject, harray⟩ := htable _ hname
  exact nodeShape_typed htype hobject harray hdescription

/-- Allowed values can be given to a node without type, properties and items. -/
theorem NodeShape.withEnum {s : Schema} {items : List Value} (hs : NodeShape s)
    (htype : s.type = []) (hproperties : s.properties = none) (hitems : s.items = none)
    (hvalues : items ≠ []) : NodeShape { s with enum := some (.list items) } := by
  have henum : ∀ v, some (Value.list items) = some v → s.type = [] ∧ s.properties = none ∧
      s.items = none ∧ ∃ items, v = .list items ∧ items ≠ [] := by
    rintro v ⟨⟩
    exact ⟨htype, hproperties, hitems, items, rfl, hvalues⟩
  exact { hs with enum := henum }

theorem nodeShape_empty : NodeShape {} :=
  nodeShape_typed (by decide) (by decide) (by decide) isTrimmed_nil

theorem nodeShape_expand {v : Value} {s : Schema} (h : expand v = .ok s) : NodeShape s := by
  have hrequired := (isOutput_expand h).required
  rcases expand_cases h with ⟨token, -, hscalar⟩ | ⟨items, -, hitems, rfl⟩ |
    ⟨entries, members, -, hmembers, rfl⟩
  · exact nodeShape_scalar hscalar
  · exact nodeShape_empty.withEnum rfl rfl rfl hitems
  · refine nodeShape_objectOf (fun member hmem => ?_) hrequired
    obtain ⟨entry, -, hexpands⟩ := exists_left_of_forall₂ hmembers hmem
    exact allowed_of_entryExpands hexpands

/-! ## Nodes -/

theorem nodeShape_redescribe {s : Schema} {description : Option Text} (hs : NodeShape s)
    (h : ∀ words, description = some words → IsTrimmed words) :
    NodeShape (redescribe s description) := by
  cases description with
  | none => exact hs
  | some words => exact { hs with description := h words rfl }

theorem nodeShape_array {child : Schema} (hchild : child.type ≠ "array") :
    NodeShape { type := "array", items := some child } where
  extras := rfl
  type := by simp [nodeTypes]
  properties := by
    have hobject : ("array" : Text) ≠ "object" := by decide
    simp [hobject]
  additional := by
    have hobject : ("array" : Text) ≠ "object" := by decide
    simp [hobject]
  items := by simp
  itemType := by
    rintro t ⟨⟩
    exact hchild
  additionalType := by simp
  enum := by simp
  notRequired := by simp
  required := by simp
  requiredName := by simp
  requiredProperty := by simp
  propertyName := by simp
  description := isTrimmed_nil

theorem nodeShape_member {text : Text} {child : Schema} {member : Member}
    (hchild : NodeShape child) (harray : child.type ≠ "array")
    (hmember : (PropertyKey.decode text).member child = .ok member) :
    NodeShape member.child := by
  have hdescription := @PropertyKey.isTrimmed_description_decode text
  rcases member_eq_ok_iff.mp hmember with ⟨-, rfl⟩ | ⟨-, rfl⟩ | ⟨-, rfl⟩ |
    ⟨-, values, hvalues, rfl⟩ | ⟨-, rfl⟩
  · exact hchild
  · exact nodeShape_redescribe hchild fun _ => hdescription
  · exact nodeShape_redescribe (nodeShape_array harray) fun _ => hdescription
  · obtain ⟨htype, hproperties, hitems, items, rfl, hnonempty⟩ := hchild.enum values hvalues
    apply nodeShape_redescribe _ fun _ => hdescription
    cases (PropertyKey.decode text).optional
    · exact hchild.withEnum htype hproperties hitems hnonempty
    · exact hchild.withEnum htype hproperties hitems (by simp)
  · exact hchild

/-- Shorthand expands to a tree all of whose nodes have the shape of one, and
whose root is no array. -/
theorem everywhere_nodeShape_expand {v : Value} {s : Schema} (h : expand v = .ok s) :
    s.type ≠ "array" ∧ s.Everywhere NodeShape := by
  refine ⟨type_ne_array_of_expand h, everywhere_of_expand (fun _ _ => nodeShape_expand) ?_ h⟩
  rintro entry member ⟨-, child, hchild, hmember⟩
  exact nodeShape_member (nodeShape_expand hchild) (type_ne_array_of_expand hchild) hmember

def tagged : Value :=
  .map [(.text "tags(array, some tags )", .map [(.text "name", .text "string, a name")]),
    (.text "color?(enum)", .list [.text "red"]), (.text "(*)", .text "any")]

def taggedSchema : Schema :=
  let tag : Schema :=
    { type := "object", properties :=
      some [("name", { type := "string", description := "a name" })]
      required := ["name"], additional := some .forbidden }
  { type := "object"
    properties := some [
      ("tags", { type := "array", description := "some tags", items := some tag }),
      ("color", { enum := some (.list [.text "red", .null]) })]
    required := ["tags"]
    additional := some (.schema {}) }

theorem everywhere_nodeShape_tagged : expand tagged = .ok taggedSchema ∧
    taggedSchema.type ≠ "array" ∧ taggedSchema.Everywhere NodeShape := by
  have hexpand : expand tagged = .ok taggedSchema := rfl
  exact ⟨hexpand, everywhere_nodeShape_expand hexpand⟩

end TerseSchema.Shorthand
