import TerseSchema.Proofs.Field.Contents
import TerseSchema.Proofs.Schema.Reordering
/-!
# Reordered documents are read alike

A schema document is read however its entries are ordered, at any depth, and the schemas that are
read from two orders of it are equal up to the order of entries.
-/

namespace TerseSchema

/-- Contents of fields that differ in the order of entries alone. -/
inductive Content.Reordered : Content → Content → Prop where
  | refl (c : Content) : Reordered c c
  | any {v w : Value} (h : v.Reordered anyKeys w) : Reordered (.any v) (.any w)
  | schema {s t : Schema} (h : s.Reordered anyKeys t) : Reordered (.schema s) (.schema t)
  | schemas {ss ts : List Schema} (h : List.Forall₂ (Schema.Reordered anyKeys) ss ts) :
      Reordered (.schemas ss) (.schemas ts)
  | schemaMap {ss middle ts : Entries Schema}
      (hvalues : List.Forall₂ (fun e f => e.1 = f.1 ∧ e.2.Reordered anyKeys f.2) ss middle)
      (hperm : middle.Perm ts) : Reordered (.schemaMap ss) (.schemaMap ts)
  | additional {s t : Schema} (h : s.Reordered anyKeys t) :
      Reordered (.additional (.schema s)) (.additional (.schema t))

/-! ## Places -/

namespace Schema

variable {c d : Content} {x y : Option Content}

theorem text?_eq_of_reordered (h : c.Reordered d) : c.text? = d.text? := by
  cases h <;> rfl

theorem names?_eq_of_reordered (h : c.Reordered d) : c.names? = d.names? := by
  cases h <;> rfl

theorem bind_eq_of_rel {α : Type} {f : Content → Option α}
    (hf : ∀ c d, c.Reordered d → f c = f d) (h : Option.Rel Content.Reordered x y) :
    x.bind f = y.bind f := by
  cases h with
  | none => rfl
  | some hcd => exact hf _ _ hcd

theorem reordered_allowed (s : Schema) (h : Option.Rel Content.Reordered x y) :
    Reordered anyKeys { s with enum := x.bind Content.allowed? }
      { s with enum := y.bind Content.allowed? } := by
  have hnonNull : ∀ v : Value, v.isContainer = true → v.nonNull = some v := by
    intro v hv
    cases v <;> first | rfl | simp [Value.isContainer] at hv
  have hany : ∀ v w : Value, v.Shuffle anyKeys w →
      Shuffle anyKeys { s with enum := v.nonNull } { s with enum := w.nonNull } := by
    intro v w hvw
    rw [hnonNull v hvw.isContainer, hnonNull w (hvw.symm fun _ _ _ _ => trivial).isContainer]
    exact .enum s hvw
  cases h with
  | none => exact .refl
  | some hcd =>
      cases hcd with
      | any hvw =>
          exact Relation.ReflTransGen.lift
            (fun v : Value => { s with enum := v.nonNull }) hany _ _ hvw
      | _ => exact .refl

theorem reordered_described (s : Schema) (h : Option.Rel Content.Reordered x y) :
    Reordered anyKeys { s with properties := x.bind Content.properties? }
      { s with properties := y.bind Content.properties? } := by
  cases h with
  | none => exact .refl
  | some hcd =>
      cases hcd with
      | schemaMap hvalues hperm =>
          exact (reordered_properties s hvalues).tail (.properties s hperm trivial)
      | _ => exact .refl

theorem reordered_item (s : Schema) (h : Option.Rel Content.Reordered x y) :
    Reordered anyKeys { s with items := x.bind Content.item? }
      { s with items := y.bind Content.item? } := by
  cases h with
  | none => exact .refl
  | some hcd =>
      cases hcd with
      | schema hst => exact reordered_items s hst
      | _ => exact .refl

theorem reordered_others (s : Schema) (h : Option.Rel Content.Reordered x y) :
    Reordered anyKeys { s with additional := x.bind Content.additional? }
      { s with additional := y.bind Content.additional? } := by
  cases h with
  | none => exact .refl
  | some hcd =>
      cases hcd with
      | additional hst => exact reordered_additional s hst
      | _ => exact .refl

theorem extraReordered_extra (h : c.Reordered d) : ExtraReordered anyKeys c.extra d.extra := by
  cases h with
  | refl => exact fun _ _ _ _ => .refl
  | any hvw => exact extraReordered_of_reordered hvw
  | schema hst => exact extraReordered_exchange (fun _ _ => .schema) hst
  | schemas h => exact extraReordered_list h
  | @schemaMap ss middle ts hvalues hperm =>
      refine (extraReordered_map hvalues).trans (extraReordered_of_reordered (.single ?_))
      exact .map ((hperm.map _).map _) trivial
  | additional hst => exact extraReordered_exchange (fun _ _ => .schema) hst

/-- Schemas that gather the same contents, in another order and with maps in them reordered, are
equal up to the order of entries. -/
theorem reordered_of_gathers {s t : Schema} {contents middle others : Entries Content}
    (hs : s.Gathers contents) (ht : t.Gathers others) (hnames : (Entries.names contents).Nodup)
    (hvalues : List.Forall₂ (fun e f => e.1 = f.1 ∧ e.2.Reordered f.2) contents middle)
    (hperm : middle.Perm others) : s.Reordered anyKeys t := by
  have hget : ∀ name, Option.Rel Content.Reordered (Entries.get? name contents)
      (Entries.get? name others) := by
    intro name
    rw [← Entries.get?_perm hperm (Entries.names_eq_of_forall₂ hvalues ▸ hnames)]
    exact Entries.get?_rel name hvalues
  have htype : s.type = t.type := by
    rw [hs.type, ht.type, bind_eq_of_rel (fun _ _ => text?_eq_of_reordered) (hget _)]
  have hdescription : s.description = t.description := by
    rw [hs.description, ht.description,
      bind_eq_of_rel (fun _ _ => text?_eq_of_reordered) (hget _)]
  have hrequired : s.required = t.required := by
    rw [hs.required, ht.required, bind_eq_of_rel (fun _ _ => names?_eq_of_reordered) (hget _)]
  have hfilter := List.rel_filter (p := fun e : Text × Content => e.1 ∉ ownFieldNames)
    (q := fun e : Text × Content => e.1 ∉ ownFieldNames)
    (fun e f (h : e.1 = f.1 ∧ e.2.Reordered f.2) => by simp [h.1]) hvalues
  have hextras : List.Forall₂ (fun e f => e.1 = f.1 ∧ ExtraReordered anyKeys e.2 f.2)
      ((contents.filter fun e => e.1 ∉ ownFieldNames).map fun e => (e.1, e.2.extra))
      ((middle.filter fun e => e.1 ∉ ownFieldNames).map fun e => (e.1, e.2.extra)) := by
    rw [List.forall₂_map_left_iff, List.forall₂_map_right_iff]
    exact hfilter.imp fun _ _ h => ⟨h.1, extraReordered_extra h.2⟩
  refine reordered_of_places htype hdescription hrequired ?_ ?_ ?_ ?_ ?_ <;> intro u
  · rw [hs.enum, ht.enum]
    exact reordered_allowed u (hget _)
  · rw [hs.properties, ht.properties]
    exact reordered_described u (hget _)
  · rw [hs.items, ht.items]
    exact reordered_item u (hget _)
  · rw [hs.additional, ht.additional]
    exact reordered_others u (hget _)
  · rw [hs.extras, ht.extras]
    exact (reordered_extras u hextras).tail (.extras u ((hperm.filter _).map _) trivial)

end Schema

/-! ## Reading -/

section

variable {entries others : List (Value × Value)} {field : Text} {v w : Value}

/-- Whatever is read from the one value is read from the other, up to the order of entries. -/
def Rereads (v w : Value) : Prop :=
  ∀ field shape c, readField field shape v = .ok c →
    ∃ d, readField field shape w = .ok d ∧ c.Reordered d

def RereadsValues (entries : List (Value × Value)) : Prop :=
  ∀ k x y, (k, x) ∈ entries → x.Shuffle anyKeys y → Rereads x y

theorem Rereads.schema (h : Rereads v w) {s : Schema} (hread : readSchema? v = some (.ok s)) :
    ∃ t, s.Reordered anyKeys t ∧ readSchema? w = some (.ok t) := by
  obtain ⟨d, hd, hcd⟩ :=
    h [] .schema (.schema s) (readField_schema_eq_ok_iff.mpr ⟨s, hread, rfl⟩)
  obtain ⟨t, ht, rfl⟩ := readField_schema_eq_ok_iff.mp hd
  cases hcd with
  | refl => exact ⟨s, .refl, ht⟩
  | schema hst => exact ⟨t, hst, ht⟩

theorem exists_readFields_of_shuffle (h : (Value.map entries).Shuffle anyKeys (.map others))
    (hplain : (Value.map entries).isPlain = true) (hkeys : (Value.map entries).TextKeyed)
    (hvalues : RereadsValues entries) {s : Schema} (hread : readFields {} entries = .ok s) :
    ∃ t, readFields {} others = .ok t ∧ s.Reordered anyKeys t := by
  obtain ⟨contents, hcontents, hnames, hs⟩ :=
    exists_gathers_of_readFields (Value.isPlain_map_iff.mp hplain).1 hread
  obtain ⟨middle, reread, haligned, hmoved, hothers⟩ := h.exists_read Content.Reordered.refl (by
    rintro k x y hmem hxy ⟨name, c⟩ ⟨hkey, hshape, hc⟩
    obtain ⟨d, hd, hcd⟩ := hvalues k x y hmem hxy _ _ _ hc
    obtain hsame := shape_of_readField hd
    exact ⟨(name, d), ⟨rfl, hcd⟩, hkey, hsame ▸ hshape, hsame ▸ hd⟩) hcontents
  have hdistinct := (Value.isPlain_map_iff.mp (h.plain_textKeyed hplain hkeys).1).1
  have ht := gathers_assignAll (nodup_names_of_entryReads hdistinct hothers)
    fun e he => ofField?_of_entryReads hothers he
  exact ⟨_, readFields_eq_ok_iff.mpr ⟨reread, hothers, rfl⟩,
    Schema.reordered_of_gathers hs ht hnames haligned hmoved⟩

theorem exists_readSchema?_of_shuffle (h : v.Shuffle anyKeys w) (hplain : v.isPlain = true)
    (hkeys : v.TextKeyed) (hvalues : ∀ entries, v.untied = .map entries → RereadsValues entries)
    {s : Schema} (hread : readSchema? v = some (.ok s)) :
    ∃ t, readSchema? w = some (.ok t) ∧ s.Reordered anyKeys t := by
  obtain ⟨entries, hmap, hfields⟩ := readSchema?_eq_ok_iff.mp hread
  obtain ⟨others, hother, hinside⟩ := h.entries hmap
  obtain ⟨t, ht, hst⟩ :=
    exists_readFields_of_shuffle hinside (hmap ▸ Value.isPlain_untied hplain)
      (hmap ▸ hkeys.reaches (Value.reaches_untied v)) (hvalues entries hmap) hfields
  exact ⟨t, readSchema?_eq_ok_iff.mpr ⟨others, hother, ht⟩, hst⟩

theorem exists_readSchemas_of_shuffle {items : List Value} (h : v.Shuffle anyKeys w)
    (hitems : v.items? = some items)
    (hrereads : ∀ x ∈ items, ∀ y, x.Shuffle anyKeys y → Rereads x y) {ss : List Schema}
    (hread : readField field .schemas v = .ok (.schemas ss)) :
    ∃ ts, readField field .schemas w = .ok (.schemas ts) ∧
      List.Forall₂ (Schema.Reordered anyKeys) ss ts := by
  obtain ⟨_, _, hsame, hss, heq⟩ := readField_schemas_eq_ok_iff.mp hread
  obtain rfl := Option.some.inj (hsame.symm.trans hitems)
  cases heq
  obtain ⟨before, after, x, y, hxy, rfl, hothers⟩ := h.items hitems
  obtain ⟨ts, hst, hts⟩ := exists_forall₂_replace (S := Schema.Reordered anyKeys)
    (fun _ => .refl) (fun _ => (hrereads x (by simp) y hxy).schema) hss
  exact ⟨ts, readField_schemas_eq_ok_iff.mpr ⟨_, ts, hothers, hts, rfl⟩, hst⟩

theorem exists_readSchemaMap_of_shuffle (h : (Value.map entries).Shuffle anyKeys (.map others))
    (hplain : (Value.map entries).isPlain = true) (hkeys : (Value.map entries).TextKeyed)
    (hvalues : RereadsValues entries) {ss : Entries Schema}
    (hread : readSchemaMap field [] entries = .ok ss) :
    ∃ ts, readSchemaMap field [] others = .ok ts ∧
      (Content.schemaMap ss).Reordered (.schemaMap ts) := by
  obtain ⟨hplain', hkeys'⟩ := h.plain_textKeyed hplain hkeys
  have htexts : ∀ {es : List (Value × Value)}, (Value.map es).TextKeyed → ∀ e ∈ es,
      ∃ name, e.1 = .text name ∧ name ∉ Entries.names ([] : Entries Schema) := fun hes e he =>
    ((Value.textKeyed_map_iff.mp hes).1 e he).imp fun _ hname => ⟨hname, by simp⟩
  rw [readSchemaMap_eq_ok_iff (Value.isPlain_map_iff.mp hplain).1 (htexts hkeys)] at hread
  obtain ⟨_, hreads, rfl⟩ := hread
  obtain ⟨middle, reread, haligned, hmoved, hothers⟩ := h.exists_read
    (fun _ => Relation.ReflTransGen.refl (r := Schema.Shuffle anyKeys)) (by
      rintro k x y hmem hxy ⟨name, s⟩ ⟨hkey, hs⟩
      obtain ⟨t, hst, ht⟩ := (hvalues k x y hmem hxy).schema hs
      exact ⟨(name, t), ⟨rfl, hst⟩, hkey, ht⟩) hreads
  refine ⟨reread, ?_, .schemaMap haligned hmoved⟩
  rw [readSchemaMap_eq_ok_iff (Value.isPlain_map_iff.mp hplain').1 (htexts hkeys')]
  exact ⟨reread, hothers, rfl⟩

end

/-- A shuffled value is read as the value is, up to the order of entries. -/
theorem exists_readField_of_shuffle {v w : Value} (h : v.Shuffle anyKeys w)
    (hplain : v.isPlain = true) (hkeys : v.TextKeyed) {field : Text} {shape : Shape}
    {c : Content} (hread : readField field shape v = .ok c) :
    ∃ d, readField field shape w = .ok d ∧ c.Reordered d := by
  induction v using Value.byContents generalizing w shape field c with
  | step v ihItems ihEntries =>
      have hinside : v.untied.isContainer = true := h.untied.isContainer
      have hvalues : ∀ entries, v.untied = .map entries → RereadsValues entries := by
        intro entries hmap k x y hmem hxy field shape c hc
        exact ihEntries entries hmap (k, x) hmem hxy
          ((Value.isPlain_of_untied_map hplain hmap).2 (k, x) hmem)
          (hkeys.reaches (Value.reaches_value hmap hmem)) hc
      have hschema : ∀ s, readSchema? v = some (.ok s) →
          ∃ t, readSchema? w = some (.ok t) ∧ s.Reordered anyKeys t :=
        fun s => exists_readSchema?_of_shuffle h hplain hkeys hvalues
      cases shape with
      | any =>
          rw [readField_any, Except.ok.injEq] at hread
          exact ⟨.any w, readField_any field w, hread ▸ .any (.single h)⟩
      | string =>
          obtain ⟨s, hv, -⟩ := readField_string_eq_ok_iff.mp hread
          simp [hv, Value.isContainer] at hinside
      | bool =>
          obtain ⟨b, hv, -⟩ := readField_bool_eq_ok_iff.mp hread
          simp [hv, Value.isContainer] at hinside
      | count =>
          obtain ⟨n, hn, -⟩ := readField_count_eq_ok_iff.mp hread
          cases hv : v.untied <;> simp [hv, Value.isContainer, count?] at hinside hn
      | strings =>
          obtain ⟨texts, hitems, -⟩ := readField_strings_eq_ok_iff.mp hread
          obtain ⟨before, after, x, y, hxy, hsplit, -⟩ := h.items hitems
          have hx : x ∈ texts.map Value.text :=
            hsplit ▸ List.mem_append_right _ List.mem_cons_self
          obtain ⟨s, -, rfl⟩ := List.mem_map.mp hx
          cases hxy
      | schema =>
          obtain ⟨s, hs, rfl⟩ := readField_schema_eq_ok_iff.mp hread
          obtain ⟨t, ht, hst⟩ := hschema s hs
          exact ⟨.schema t, readField_schema_eq_ok_iff.mpr ⟨t, ht, rfl⟩, .schema hst⟩
      | schemas =>
          obtain ⟨items, ss, hitems, -, rfl⟩ := readField_schemas_eq_ok_iff.mp hread
          have hrereads : ∀ x ∈ items, ∀ y, x.Shuffle anyKeys y → Rereads x y :=
            fun x hx y hxy field shape c hc => ihItems items hitems x hx hxy
              (Value.isPlain_item hplain hitems hx)
              (hkeys.reaches (Value.reaches_item hitems hx)) hc
          obtain ⟨ts, hts, hst⟩ := exists_readSchemas_of_shuffle h hitems hrereads hread
          exact ⟨.schemas ts, hts, .schemas hst⟩
      | schemaMap =>
          obtain ⟨entries, ss, hmap, hss, rfl⟩ := readField_schemaMap_eq_ok_iff.mp hread
          obtain ⟨others, hother, hshuffle⟩ := h.entries hmap
          obtain ⟨ts, hts, hst⟩ := exists_readSchemaMap_of_shuffle hshuffle
            (hmap ▸ Value.isPlain_untied hplain) (hmap ▸ hkeys.reaches (Value.reaches_untied v))
            (hvalues entries hmap) hss
          exact ⟨.schemaMap ts, readField_schemaMap_eq_ok_iff.mpr ⟨others, ts, hother, hts, rfl⟩,
            hst⟩
      | schemaOrBool =>
          rcases readField_schemaOrBool_eq_ok_iff.mp hread with ⟨b, hv, -⟩ | ⟨s, hs, rfl⟩
          · simp [hv, Value.isContainer] at hinside
          · obtain ⟨t, ht, hst⟩ := hschema s hs
            exact ⟨.additional (.schema t),
              readField_schemaOrBool_eq_ok_iff.mpr (.inr ⟨t, ht, rfl⟩), .additional hst⟩

end TerseSchema
