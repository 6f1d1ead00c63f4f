import TerseSchema.Proofs.Shorthand.Reordering
import TerseSchema.Proofs.Shorthand.Shape
/-!
# What a map of shorthand means

Entry by entry, a map says what a list of clauses does: each is a decoded key with the schema of
the value under it. The object that the map expands to is told from its clauses alone, however
many of them speak of one name. The first of these gives the property its place, the last its
schema, and any one of them can require it.
-/

namespace TerseSchema.Shorthand

/-- What one entry of a map says. -/
structure Clause where
  key : PropertyKey
  value : Schema

namespace Clause

def IsOf (c : Clause) (entry : Value × Value) : Prop :=
  c.key = PropertyKey.decode entry.1.keyText ∧ expand entry.2 = .ok c.value

def name (c : Clause) : Text := c.key.name

def isProperty (c : Clause) : Bool := !c.key.isWildcard

def requires (c : Clause) : Bool := c.isProperty && !c.key.optional && c.name ≠ []

/-- The schema that a clause has for the property of its name. A description in parentheses takes
the place of the outermost one. -/
inductive Stores : Clause → Schema → Prop where
  | plain {c : Clause} (h : c.key.modifier = none) : Stores c c.value
  | object {c : Clause} (h : c.key.modifier = some "object") :
      Stores c { c.value with description := c.key.description.getD c.value.description }
  | array {c : Clause} (h : c.key.modifier = some "array") :
      Stores c
        { type := "array", items := some c.value, description := c.key.description.getD [] }
  | enum {c : Clause} {items : List Value} (h : c.key.modifier = some "enum")
      (hvalues : c.value.enum = some (.list items)) (hrequired : c.key.optional = false) :
      Stores c { c.value with description := c.key.description.getD c.value.description }
  | optionalEnum {c : Clause} {items : List Value} (h : c.key.modifier = some "enum")
      (hvalues : c.value.enum = some (.list items)) (hoptional : c.key.optional = true) :
      Stores c { c.value with
        enum := some (.list (items ++ [.null]))
        description := c.key.description.getD c.value.description }

end Clause

def propertyNamesOf (clauses : List Clause) : List Text :=
  (clauses.filter Clause.isProperty).map Clause.name

def clausesAbout (name : Text) (clauses : List Clause) : List Clause :=
  clauses.filter fun c => c.isProperty && c.name = name

/-- What further properties are described as: the last wildcard tells,
without its own description. -/
def furtherProperties (clauses : List Clause) : Additional :=
  match (clauses.filter fun c => c.key.isWildcard).getLast? with
  | none => .forbidden
  | some c => .schema c.value

/-- An object says what clauses do. -/
structure IsObjectOf (clauses : List Clause) (s : Schema) : Prop where
  type : s.type = "object"
  properties : ∃ ps, s.properties = some ps ∧
    Entries.names ps = (propertyNamesOf clauses).eraseDups ∧
    ∀ name child, (name, child) ∈ ps →
      ∃ c, (clausesAbout name clauses).getLast? = some c ∧ c.Stores child
  required : s.required = ((clauses.filter Clause.requires).map Clause.name).eraseDups
  additional : s.additional = some (furtherProperties clauses)
  rest : s.description = [] ∧ s.enum = none ∧ s.items = none ∧ s.extras = []

/-! ## Members -/

inductive Clause.Makes (c : Clause) : Member → Prop where
  | property {child : Schema} (hkey : c.isProperty = true) (hstores : c.Stores child) :
      Makes c (.property c.name c.requires child)
  | wildcard (hkey : c.isProperty = false) : Makes c (.wildcard c.value)

theorem redescribe_eq (s : Schema) (description : Option Text) :
    redescribe s description = { s with description := description.getD s.description } := by
  obtain ⟨_, _, _, _, _, _, _, _⟩ := s
  cases description <;> rfl

theorem withEnum_eq_self {s : Schema} {values : Value} (h : s.enum = some values) :
    { s with enum := some values } = s := by
  obtain ⟨_, _, _, _, _, _, _, _⟩ := s
  cases h
  rfl

theorem exists_items_of_expand {v values : Value} {s : Schema} (h : expand v = .ok s)
    (henum : s.enum = some values) : ∃ items, values = .list items := by
  obtain ⟨-, -, -, items, hitems, -⟩ := (nodeShape_expand h).enum values henum
  exact ⟨items, hitems⟩

theorem Clause.requires_eq (c : Clause) : c.requires = c.key.isRequired := by
  obtain ⟨⟨name, optional, modifier, description⟩, value⟩ := c
  cases name <;> cases optional <;>
    simp [Clause.requires, Clause.isProperty, Clause.name, PropertyKey.isWildcard,
      PropertyKey.isRequired]

theorem Clause.makes_of_member {c : Clause} {member : Member}
    (hvalues : ∀ values, c.value.enum = some values → ∃ items, values = .list items)
    (h : c.key.member c.value = .ok member) : c.Makes member := by
  rcases member_by_wildcard h with ⟨hkey, rfl⟩ | ⟨hkey, child, rfl⟩
  · exact .wildcard (by simp [Clause.isProperty, hkey])
  have hproperty : c.isProperty = true := by simp [Clause.isProperty, hkey]
  rw [← Clause.requires_eq]
  refine .property hproperty ?_
  rcases member_eq_ok_iff.mp h with ⟨hmod, heq⟩ | ⟨hmod, heq⟩ | ⟨hmod, heq⟩ |
    ⟨hmod, values, henum, heq⟩ | ⟨-, heq⟩
  · cases heq
    exact .plain hmod
  · cases heq
    rw [redescribe_eq]
    exact .object hmod
  · cases heq
    rw [redescribe_eq]
    exact .array hmod
  · cases heq
    obtain ⟨items, rfl⟩ := hvalues values henum
    cases hoptional : c.key.optional with
    | true =>
        rw [redescribe_eq]
        exact .optionalEnum hmod henum hoptional
    | false =>
        simp only [Bool.false_eq_true, if_false, withEnum_eq_self henum]
        rw [redescribe_eq]
        exact .enum hmod henum hoptional
  · cases heq

/-- The entries of a map that expands have clauses, each of which makes
the member of its entry. -/
theorem exists_clauses {entries : List (Value × Value)} {members : List Member}
    (h : List.Forall₂ EntryExpands entries members) :
    ∃ clauses, List.Forall₂ Clause.IsOf clauses entries ∧
      List.Forall₂ Clause.Makes clauses members := by
  induction h with
  | nil => exact ⟨[], .nil, .nil⟩
  | cons hentry _ ih =>
      obtain ⟨-, child, hchild, hmember⟩ := hentry
      obtain ⟨clauses, hentries, hmembers⟩ := ih
      exact ⟨⟨_, child⟩ :: clauses, .cons ⟨rfl, hchild⟩ hentries,
        .cons (Clause.makes_of_member (fun _ => exists_items_of_expand hchild) hmember) hmembers⟩

/-! ## Objects -/

section

variable {clauses : List Clause} {members : List Member}

theorem entries_of_makes (h : List.Forall₂ Clause.Makes clauses members) :
    List.Forall₂ (fun c e => c.name = e.1 ∧ c.Stores e.2) (clauses.filter Clause.isProperty)
      (members.filterMap Member.entry?) := by
  induction h with
  | nil => exact .nil
  | cons hmakes _ ih =>
      cases hmakes with
      | property hkey hstores =>
          simpa [hkey, List.filterMap_cons, Member.entry?] using ⟨hstores, ih⟩
      | wildcard hkey => simpa [hkey, List.filterMap_cons, Member.entry?] using ih

theorem requiredNames_of_makes (h : List.Forall₂ Clause.Makes clauses members) :
    members.filterMap Member.requiredName? =
      (clauses.filter Clause.requires).map Clause.name := by
  induction h with
  | nil => rfl
  | @cons c member _ _ hmakes _ ih =>
      cases hmakes with
      | property hkey hstores =>
          cases hrequires : c.requires <;>
            simp [hrequires, List.filterMap_cons, Member.requiredName?, ih]
      | wildcard hkey =>
          simp [Clause.requires, hkey, List.filterMap_cons, Member.requiredName?, ih]

theorem additional_of_makes (h : List.Forall₂ Clause.Makes clauses members) :
    members.filterMap Member.additional? =
      (clauses.filter fun c => c.key.isWildcard).map fun c => .schema c.value := by
  induction h with
  | nil => rfl
  | cons hmakes _ ih =>
      cases hmakes with
      | property hkey hstores =>
          simp only [Clause.isProperty, Bool.not_eq_true'] at hkey
          simp [hkey, List.filterMap_cons, Member.additional?, ih]
      | wildcard hkey =>
          simp only [Clause.isProperty, Bool.not_eq_false'] at hkey
          simp [hkey, Member.additional?, ih]

theorem exists_stored_of_mem (h : List.Forall₂ Clause.Makes clauses members) {name : Text}
    {child : Schema}
    (hmem : (name, child) ∈ Entries.putAll [] (members.filterMap Member.entry?)) :
    ∃ c, (clausesAbout name clauses).getLast? = some c ∧ c.Stores child := by
  have hnodup : (Entries.names (Entries.putAll [] (members.filterMap Member.entry?))).Nodup :=
    Entries.nodup_names_putAll _ List.nodup_nil
  have hget := (Entries.get?_eq_some_iff hnodup).mpr hmem
  rw [Entries.get?_putAll_nil, Option.map_eq_some_iff] at hget
  obtain ⟨⟨_, _⟩, hlast, rfl⟩ := hget
  have hpairs := List.rel_filter (p := fun c => c.name = name) (q := fun e => e.1 = name)
    (by rintro c e ⟨hname, -⟩; simp [hname]) (entries_of_makes h)
  have habout := getLast?_rel hpairs
  rw [hlast] at habout
  obtain ⟨c, hc, -, hstores⟩ := exists_eq_some_of_rel habout
  refine ⟨c, ?_, hstores⟩
  rw [List.filter_filter] at hc
  simpa only [clausesAbout, Bool.and_comm] using hc

theorem isObjectOf_objectOf (h : List.Forall₂ Clause.Makes clauses members) :
    IsObjectOf clauses (objectOf members) := by
  have hentries := entries_of_makes h
  have hnames : Entries.names (members.filterMap Member.entry?) = propertyNamesOf clauses := by
    have hsame : List.Forall₂ (· = ·) ((clauses.filter Clause.isProperty).map Clause.name)
        ((members.filterMap Member.entry?).map Prod.fst) := by
      rw [List.forall₂_map_left_iff, List.forall₂_map_right_iff]
      exact hentries.imp fun c e hpair => hpair.1
    rw [List.forall₂_eq_eq_eq] at hsame
    exact hsame.symm
  rw [objectOf_eq]
  refine ⟨rfl, ⟨_, rfl, ?_, fun name child => exists_stored_of_mem h⟩, ?_, ?_,
    rfl, rfl, rfl, rfl⟩
  · rw [Entries.names_putAll_nil, hnames]
  · rw [requiredNames_of_makes h]
  · simp only [additional_of_makes h, furtherProperties, List.getLast?_map]
    cases (clauses.filter fun c => c.key.isWildcard).getLast? <;> rfl

end

/-- A map expands to the object that its clauses tell. -/
theorem isObjectOf_of_expand {v : Value} {entries : List (Value × Value)} {s : Schema}
    (hentries : v.untied = .map entries) (h : expand v = .ok s) :
    ∃ clauses, List.Forall₂ Clause.IsOf clauses entries ∧ IsObjectOf clauses s := by
  rcases expand_cases h with ⟨token, hv, -⟩ | ⟨items, hv, -, -⟩ |
    ⟨others, members, hv, hmembers, rfl⟩
  · simp [hentries] at hv
  · simp [Value.items?, hentries] at hv
  · obtain rfl : entries = others := by simpa [hentries] using hv
    obtain ⟨clauses, hclauses, hmakes⟩ := exists_clauses hmembers
    exact ⟨clauses, hclauses, isObjectOf_objectOf hmakes⟩

def repeated : List (Value × Value) :=
  [(.text "a?", .text "string"), (.text "b(array, some bs)", .text "integer"),
    (.text "a", .text "number"), (.text "(*)", .text "string"),
    (.text "c?(enum, a hue)", .list [.text "red"]),
    (.text "d(*, ignored)", .text "any, what else"),
    (.text "a(object, the last)", .map [(.text "x", .text "boolean")])]

def repeatedSchema : Schema :=
  let last : Schema :=
    { type := "object", description := "the last",
      properties := some [("x", { type := "boolean" })]
      required := ["x"], additional := some .forbidden }
  { type := "object"
    properties := some [("a", last),
      ("b", { type := "array", description := "some bs", items := some { type := "integer" } }),
      ("c", { description := "a hue", enum := some (.list [.text "red", .null]) })]
    required := ["b", "a"]
    additional := some (.schema { description := "what else" }) }

theorem isObjectOf_repeated : expand (.map repeated) = .ok repeatedSchema ∧
    ∃ clauses, List.Forall₂ Clause.IsOf clauses repeated ∧
    IsObjectOf clauses repeatedSchema := by
  have hexpand : expand (.map repeated) = .ok repeatedSchema := rfl
  exact ⟨hexpand, isObjectOf_of_expand rfl hexpand⟩

end TerseSchema.Shorthand
