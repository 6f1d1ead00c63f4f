import TerseSchema.Proofs.Schema.Canonical
import TerseSchema.Proofs.Shorthand.Grammar
/-!
# Reordered shorthand

Whether a value is shorthand does not depend on the order of entries. What it expands to does, as
a later property takes the place of an earlier one of the same name, and a later wildcard that of
an earlier one. Where entries are moved that do not meet in this way, the expansions are equal up
to the order of entries once the lists of required names are sorted. Sorting does not reach what
a wildcard describes, so nothing is moved there.
-/

namespace TerseSchema.Shorthand

/-! ## Shuffles -/

def PropertyKey.isWildcard (key : PropertyKey) : Bool := key.modifier = some wildcard

def propertyNames (entries : List (Value × Value)) : List Text :=
  entries.filterMap fun e =>
    let key := PropertyKey.decode e.1.keyText
    if key.isWildcard then none else some key.name

def wildcards (entries : List (Value × Value)) : List (Value × Value) :=
  entries.filter fun e => (PropertyKey.decode e.1.keyText).isWildcard

/-- The entries of one map in another order, outside of what wildcards describe. The map names
properties that are set apart as `apart` tells and has one wildcard at most, or it is among
allowed values, where its keys are set apart in the same way. -/
inductive Shuffle (apart : List Text → Prop) : Value → Value → Prop where
  | map {entries others : List (Value × Value)} (hperm : entries.Perm others)
      (hnames : apart (propertyNames entries)) (hwildcards : (wildcards entries).length ≤ 1) :
      Shuffle apart (.map entries) (.map others)
  | entry {before after : List (Value × Value)} {k v w : Value}
      (hkey : (PropertyKey.decode k.keyText).isWildcard = false) (h : Shuffle apart v w) :
      Shuffle apart (.map (before ++ (k, v) :: after)) (.map (before ++ (k, w) :: after))
  | item {before after : List Value} {v w : Value} (h : v.Shuffle (TextKeys apart) w) :
      Shuffle apart (.list (before ++ v :: after)) (.list (before ++ w :: after))
  | component {before after : List Value} {v w : Value} (h : v.Shuffle (TextKeys apart) w) :
      Shuffle apart (.tuple (before ++ v :: after)) (.tuple (before ++ w :: after))
  | inside {label : Nat} {v w : Value} (h : Shuffle apart v w) :
      Shuffle apart (.knot label v) (.knot label w)

abbrev Reordered (apart : List Text → Prop) : Value → Value → Prop :=
  Relation.ReflTransGen (Shuffle apart)

variable {apart : List Text → Prop} {free : List Value → Prop} {v w : Value}

theorem Shuffle.value (h : Shuffle apart v w) : v.Shuffle anyKeys w := by
  induction h with
  | map hperm _ _ => exact .map hperm trivial
  | entry _ _ ih => exact .entry ih
  | item h => exact .item (h.mono fun _ _ => trivial)
  | component h => exact .component (h.mono fun _ _ => trivial)
  | inside _ ih => exact .inside ih

/-! ## Acceptance -/

theorem isNonEmptyList_iff_of_shuffle (h : v.Shuffle free w) :
    IsNonEmptyList v ↔ IsNonEmptyList w := by
  cases hitems : v.items? with
  | none => simp [IsNonEmptyList, hitems, h.items?_eq_none hitems]
  | some items =>
      obtain ⟨before, after, x, y, -, rfl, hothers⟩ := h.items hitems
      simp [IsNonEmptyList, hitems, hothers]

/-- A value is shorthand however its entries are ordered. -/
theorem exists_expand_iff_of_shuffle (h : v.Shuffle free w) :
    (∃ s, expand v = .ok s) ↔ ∃ t, expand w = .ok t := by
  induction h with
  | map hperm _ => simp only [exists_expand_map_iff, hperm.mem_iff]
  | @entry before after k v w h ih =>
      have hallows : ∀ key : PropertyKey, key.Allows v ↔ key.Allows w := fun key => by
        simp only [PropertyKey.Allows, isNonEmptyList_iff_of_shuffle h]
      simp only [exists_expand_map_iff, List.forall_mem_append,
        List.forall_mem_cons, ih, hallows]
  | item => simp [expand, enumeration_eq_ok_iff]
  | component => simp [expand, enumeration_eq_ok_iff]
  | inside _ ih => simpa only [expand] using ih

/-! ## Members -/

/-- Members that differ in the order of entries alone, once their schemas are sorted. -/
inductive Member.Resembles (free : List Value → Prop) : Member → Member → Prop where
  | property {name : Text} {required : Bool} {s t : Schema}
      (h : s.sorted.Reordered free t.sorted) :
      Resembles free (.property name required s) (.property name required t)
  | wildcard (s : Schema) : Resembles free (.wildcard s) (.wildcard s)

theorem Member.resembles_refl (member : Member) : member.Resembles free member := by
  cases member with
  | property name required child => exact .property .refl
  | wildcard child => exact .wildcard child

theorem sorted_edit (s : Schema) (f g : Text → Text) (e : Value → Value) :
    (s.edit f g e).sorted = s.sorted.edit f g e := by
  simp [sorted_eq, Schema.edit]

theorem redescribe_eq_edit (s : Schema) (description : Option Text) :
    redescribe s description = s.edit id (fun old => description.getD old) id := by
  obtain ⟨_, _, _, _, _, _, _, _⟩ := s
  cases description <;> simp [redescribe, Schema.edit]

theorem sorted_redescribe {s t : Schema} (h : s.sorted.Reordered free t.sorted)
    (description : Option Text) :
    (redescribe s description).sorted.Reordered free (redescribe t description).sorted := by
  rw [redescribe_eq_edit, redescribe_eq_edit, sorted_edit, sorted_edit]
  exact Schema.reordered_edit (fun _ _ => id) h

theorem withNull_shuffle (h : v.Shuffle free w) : (withNull v).Shuffle free (withNull w) := by
  cases h with
  | item h =>
      simp only [withNull, List.append_assoc, List.cons_append]
      exact .item h
  | map hperm hfree => exact .map hperm hfree
  | entry h => exact .entry h
  | component h => exact .component h
  | inside h => exact .inside h

theorem enum_isSome_eq_of_reordered {s t : Schema} (h : s.Reordered free t) :
    s.enum.isSome = t.enum.isSome := by
  induction h with
  | refl => rfl
  | tail _ hstep ih =>
      rw [ih]
      cases hstep <;> rfl

/-- A key that is no wildcard makes resembling members of children that are equal up to the order
of entries once they are sorted. -/
theorem exists_member_of_reordered {key : PropertyKey} (hkey : key.isWildcard = false)
    {child other : Schema} (h : child.sorted.Reordered free other.sorted) {member : Member}
    (hmember : key.member child = .ok member) :
    ∃ resembling, key.member other = .ok resembling ∧ member.Resembles free resembling := by
  rcases member_eq_ok_iff.mp hmember with ⟨hmod, rfl⟩ | ⟨hmod, rfl⟩ | ⟨hmod, rfl⟩ |
    ⟨hmod, values, hvalues, rfl⟩ | ⟨hmod, -⟩
  · exact ⟨_, member_eq_ok_iff.mpr (.inl ⟨hmod, rfl⟩), .property h⟩
  · exact ⟨_, member_eq_ok_iff.mpr (.inr (.inl ⟨hmod, rfl⟩)), .property (sorted_redescribe h _)⟩
  · have harray : ({ type := "array", items := some child } : Schema).sorted.Reordered free
        ({ type := "array", items := some other } : Schema).sorted :=
      Schema.reordered_items { type := "array", required := sortNames [] } h
    exact ⟨_, member_eq_ok_iff.mpr (.inr (.inr (.inl ⟨hmod, rfl⟩))),
      .property (sorted_redescribe harray _)⟩
  · have hsome : other.enum.isSome = true := by
      have hkept := enum_isSome_eq_of_reordered h
      rwa [sorted_eq, sorted_eq, hvalues, eq_comm] at hkept
    obtain ⟨others, hothers⟩ := Option.isSome_iff_exists.mp hsome
    have hedited : ∀ {s : Schema} {values : Value}, s.enum = some values →
        { s with enum := some (if key.optional then withNull values else values) } =
          s.edit id id (if key.optional then withNull else id) := by
      intro s values hs
      simp only [Schema.edit, hs, Option.map_some, id]
      split <;> rfl
    refine ⟨_, member_eq_ok_iff.mpr (.inr (.inr (.inr (.inl ⟨hmod, others, hothers, rfl⟩)))),
      .property (sorted_redescribe ?_ _)⟩
    rw [hedited hvalues, hedited hothers, sorted_edit, sorted_edit]
    refine Schema.reordered_edit (fun v w hvw => ?_) h
    split
    · exact withNull_shuffle hvw
    · exact hvw
  · rw [PropertyKey.isWildcard, hmod] at hkey
    simp [wildcard] at hkey

/-! ## Objects -/

namespace Member

def entry? : Member → Option (Text × Schema)
  | .property name _ child => some (name, child)
  | .wildcard _ => none

def requiredName? : Member → Option Text
  | .property name true _ => some name
  | _ => none

def additional? : Member → Option Additional
  | .property _ _ _ => none
  | .wildcard child => some (.schema child)

end Member

/-- What the members of an object amount to: a name keeps its first place, the last property of a
name is the one that is kept, and the last wildcard counts. -/
theorem objectOf_eq (members : List Member) :
    objectOf members = { emptyObject with
      properties := some (Entries.putAll [] (members.filterMap Member.entry?))
      required := (members.filterMap Member.requiredName?).eraseDups
      additional :=
        some ((members.filterMap Member.additional?).getLast?.getD .forbidden) } := by
  induction members using List.reverseRecOn with
  | nil => rfl
  | append_singleton before member ih =>
      have happ : objectOf (before ++ [member]) = addMember (objectOf before) member := by
        simp [objectOf, List.foldl_append]
      simp only [happ, ih, List.filterMap_append, List.filterMap_cons, List.filterMap_nil]
      cases member with
      | wildcard child =>
        simp [addMember, Member.entry?, Member.requiredName?, Member.additional?]
      | property name required child =>
          cases required with
          | false =>
              simp [addMember, Member.entry?, Member.requiredName?, Member.additional?,
                Entries.putAll_concat]
          | true =>
              simp only [Member.entry?, Member.requiredName?, Member.additional?,
                Entries.putAll_concat, Entries.eraseDups_concat, List.append_nil]
              generalize before.filterMap Member.requiredName? = names
              by_cases hname : name ∈ names <;> simp [addMember, hname]

theorem requiredNames_sublist (members : List Member) :
    (members.filterMap Member.requiredName?).Sublist
      (Entries.names (members.filterMap Member.entry?)) := by
  induction members with
  | nil => exact .slnil
  | cons member rest ih =>
      cases member with
      | wildcard child => exact ih
      | property name required child =>
          cases required with
          | false => exact ih.cons name
          | true => exact ih.cons_cons name

/-- Members that name no property twice bring their properties and their
required names as they are. -/
theorem objectOf_of_nodup {members : List Member}
    (hnames : (Entries.names (members.filterMap Member.entry?)).Nodup) :
    objectOf members = { emptyObject with
      properties := some (members.filterMap Member.entry?)
      required := members.filterMap Member.requiredName?
      additional :=
        some ((members.filterMap Member.additional?).getLast?.getD .forbidden) } := by
  have hrequired := Entries.eraseDups_of_nodup (hnames.sublist (requiredNames_sublist members))
  have hproperties : Entries.putAll [] (members.filterMap Member.entry?) =
      [] ++ members.filterMap Member.entry? := Entries.putAll_of_nodup hnames
  rw [objectOf_eq, hproperties, hrequired, List.nil_append]

theorem sorted_objectOf_perm {members others : List Member} (hperm : members.Perm others)
    (hnodup : (Entries.names (members.filterMap Member.entry?)).Nodup)
    (hapart : apart (Entries.names (members.filterMap Member.entry?)))
    (hwildcards : (members.filterMap Member.additional?).length ≤ 1) :
    (objectOf members).sorted.Reordered (TextKeys apart) (objectOf others).sorted := by
  have hentries := hperm.filterMap Member.entry?
  have hothers : (Entries.names (others.filterMap Member.entry?)).Nodup :=
    (hentries.map Prod.fst).nodup_iff.mp hnodup
  have hadditional :
      members.filterMap Member.additional? = others.filterMap Member.additional? := by
    have hmoved := hperm.filterMap Member.additional?
    cases hlist : members.filterMap Member.additional? with
    | nil => exact (hlist ▸ hmoved).nil_eq
    | cons a rest =>
        have hrest : rest = [] := by
          rw [hlist, List.length_cons] at hwildcards
          exact List.length_eq_zero_iff.mp (by omega)
        rw [hlist, hrest, List.singleton_perm] at hmoved
        rw [hrest, hmoved]
  rw [objectOf_of_nodup hnodup, objectOf_of_nodup hothers, sorted_eq, sorted_eq]
  simp only [sortNames_perm (hperm.filterMap Member.requiredName?), hadditional, Option.map_some,
    sortedProperties_eq]
  refine .single (Schema.Shuffle.properties { emptyObject with
    required := sortNames (others.filterMap Member.requiredName?)
    additional := some ((others.filterMap Member.additional?).getLast?.getD .forbidden) }
    (hentries.map _) ⟨fun k hk => ?_, ?_⟩)
  · obtain ⟨e, -, rfl⟩ := List.mem_map.mp hk
    exact ⟨e.1, rfl⟩
  · simpa [Entries.names, Function.comp_def, Value.keyText] using hapart

/-- Objects that differ in the properties alone, which are equal up to the order of entries
once they are sorted. -/
def Alike (free : List Value → Prop) (s t : Schema) : Prop :=
  ∃ ps qs, s.properties = some ps ∧ t = { s with properties := some qs } ∧
    List.Forall₂ (fun e f => e.1 = f.1 ∧ e.2.sorted.Reordered free f.2.sorted) ps qs

theorem alike_addMember {s t : Schema} {member other : Member} (h : Alike free s t)
    (hmember : member.Resembles free other) :
    Alike free (addMember s member) (addMember t other) := by
  obtain ⟨ps, qs, hps, rfl, hpairs⟩ := h
  cases hmember with
  | wildcard child => exact ⟨ps, qs, hps, rfl, hpairs⟩
  | @property name required child other hchild =>
      refine ⟨Entries.put name child ps, Entries.put name other qs,
        by simp [addMember, hps], rfl, ?_⟩
      exact Entries.forall₂_put
        (R := fun s t : Schema => s.sorted.Reordered free t.sorted) hchild hpairs

theorem sorted_objectOf_resembles {members others : List Member}
    (h : List.Forall₂ (Member.Resembles free) members others) :
    (objectOf members).sorted.Reordered free (objectOf others).sorted := by
  have hempty : Alike free emptyObject emptyObject := ⟨[], [], rfl, rfl, .nil⟩
  obtain ⟨ps, qs, hps, heq, hpairs⟩ :=
    List.rel_foldl (P := Alike free) (R := Member.Resembles free)
      (fun _ _ hst _ _ hmember => alike_addMember hst hmember) hempty h
  change objectOf others = { objectOf members with properties := some qs } at heq
  change (objectOf members).properties = some ps at hps
  rw [heq, sorted_eq, sorted_eq { objectOf members with properties := some qs }]
  simp only [hps, Option.map_some, sortedProperties_eq]
  refine Schema.reordered_properties { objectOf members with
    items := (objectOf members).items.map Schema.sorted
    required := sortNames (objectOf members).required } ?_
  rw [List.forall₂_map_left_iff, List.forall₂_map_right_iff]
  exact hpairs

/-! ## Expansions -/

/-- A wildcard makes a member of its own kind, and every other key a property of its name. -/
theorem member_by_wildcard {key : PropertyKey} {child : Schema} {member : Member}
    (h : key.member child = .ok member) :
    (key.isWildcard = true ∧ member = .wildcard child) ∨
      (key.isWildcard = false ∧ ∃ other, member = .property key.name key.isRequired other) := by
  have hname : ∀ name : String, name ≠ "*" → key.modifier = some (Text.ofString name) →
      key.isWildcard = false := by
    intro name hne hmod
    simpa [PropertyKey.isWildcard, hmod, wildcard, Text.ofString_inj] using hne
  rcases member_eq_ok_iff.mp h with ⟨hmod, rfl⟩ | ⟨hmod, rfl⟩ | ⟨hmod, rfl⟩ |
    ⟨hmod, values, -, rfl⟩ | ⟨hmod, rfl⟩
  · exact .inr ⟨by simp [PropertyKey.isWildcard, hmod], _, rfl⟩
  · exact .inr ⟨hname "object" (by decide) hmod, _, rfl⟩
  · exact .inr ⟨hname "array" (by decide) hmod, _, rfl⟩
  · exact .inr ⟨hname "enum" (by decide) hmod, _, rfl⟩
  · exact .inl ⟨by simp [PropertyKey.isWildcard, hmod, wildcard], rfl⟩

theorem names_of_entryExpands {entries : List (Value × Value)} {members : List Member}
    (h : List.Forall₂ EntryExpands entries members) :
    Entries.names (members.filterMap Member.entry?) = propertyNames entries := by
  induction h with
  | nil => rfl
  | @cons e member entries members hentry _ ih =>
      obtain ⟨-, child, -, hmember⟩ := hentry
      rw [propertyNames] at ih ⊢
      rcases member_by_wildcard hmember with ⟨hkey, rfl⟩ | ⟨hkey, other, rfl⟩
      · simpa [List.filterMap_cons, Member.entry?, hkey] using ih
      · simpa [List.filterMap_cons, Member.entry?, hkey] using ih

theorem length_wildcards_of_entryExpands {entries : List (Value × Value)} {members : List Member}
    (h : List.Forall₂ EntryExpands entries members) :
    (members.filterMap Member.additional?).length = (wildcards entries).length := by
  induction h with
  | nil => rfl
  | @cons e member entries members hentry _ ih =>
      obtain ⟨-, child, -, hmember⟩ := hentry
      rw [wildcards] at ih ⊢
      rcases member_by_wildcard hmember with ⟨hkey, rfl⟩ | ⟨hkey, other, rfl⟩
      · simpa [List.filterMap_cons, Member.additional?, hkey] using ih
      · simpa [List.filterMap_cons, Member.additional?, hkey] using ih

theorem exists_enumeration_replace {before after : List Value} (h : v.Shuffle free w)
    {s : Schema} (henumeration : enumeration (before ++ v :: after) = .ok s) :
    ∃ t, enumeration (before ++ w :: after) = .ok t ∧ s.sorted.Reordered free t.sorted := by
  obtain ⟨-, rfl⟩ := enumeration_eq_ok_iff.mp henumeration
  refine ⟨{ enum := some (.list (before ++ w :: after)) },
    enumeration_eq_ok_iff.mpr ⟨by simp, rfl⟩, ?_⟩
  exact Schema.reordered_enum { required := sortNames [] } (.single (.item h))

/-- Shuffled shorthand expands to what the shorthand does, up to the order of entries,
once both are sorted. -/
theorem exists_expand_of_shuffle (hapart : ∀ names, apart names → names.Nodup)
    (h : Shuffle apart v w) {s : Schema} (hexpand : expand v = .ok s) :
    ∃ t, expand w = .ok t ∧ s.sorted.Reordered (TextKeys apart) t.sorted := by
  induction h generalizing s with
  | @map entries others hperm hnames hwildcards =>
      obtain ⟨members, hmembers, rfl⟩ := expand_map_eq_ok_iff.mp hexpand
      obtain ⟨moved, hmoved, hpermuted⟩ := List.perm_comp_forall₂ hperm.symm hmembers
      refine ⟨objectOf moved, expand_map_eq_ok_iff.mpr ⟨moved, hmoved, rfl⟩, ?_⟩
      rw [← names_of_entryExpands hmembers] at hnames
      rw [← length_wildcards_of_entryExpands hmembers] at hwildcards
      exact sorted_objectOf_perm hpermuted.symm (hapart _ hnames) hnames hwildcards
  | @entry before after k v w hkey h ih =>
      obtain ⟨members, hmembers, rfl⟩ := expand_map_eq_ok_iff.mp hexpand
      obtain ⟨others, hresemble, hothers⟩ :=
        exists_forall₂_replace (S := Member.Resembles (TextKeys apart))
        (z := (k, w)) Member.resembles_refl (by
          rintro member ⟨hwritable, child, hchild, hmember⟩
          obtain ⟨other, hother, hsorted⟩ := ih hchild
          obtain ⟨resembling, hmade, hresembles⟩ :=
            exists_member_of_reordered hkey hsorted hmember
          exact ⟨resembling, hresembles, hwritable, other, hother, hmade⟩) hmembers
      exact ⟨objectOf others, expand_map_eq_ok_iff.mpr ⟨others, hothers, rfl⟩,
        sorted_objectOf_resembles hresemble⟩
  | item h | component h =>
      simp only [expand] at hexpand ⊢
      exact exists_enumeration_replace h hexpand
  | inside _ ih =>
      simp only [expand] at hexpand ⊢
      exact ih hexpand

end TerseSchema.Shorthand
