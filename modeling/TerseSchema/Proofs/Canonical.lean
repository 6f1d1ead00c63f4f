import TerseSchema.Proofs.Field.Sources
import TerseSchema.Proofs.Routing
import TerseSchema.Proofs.Schema.Ordering
import TerseSchema.Proofs.Schema.Sorting
/-!
# Canonical values stay as they are

A canonical value is a document itself: it is told to be a schema document, it describes a
schema, and the canonical value of that schema is the same value again. Names are sorted before
they are written as JSON, which puts the halves of surrogate pairs together; so this holds as
long as no two required names change places by that.
-/

namespace TerseSchema

open Json

/-! ## Knots -/

/-- Only lists and maps lie inside of themselves. -/
def Value.TiesContainers (v : Value) : Prop :=
  ∀ label container, v.Reaches (.knot label container) → container.isContainer = true

theorem Value.TiesContainers.of_reaches {v w : Value} (h : v.TiesContainers)
    (hreaches : v.Reaches w) :
    w.TiesContainers :=
  fun label container hknot => h label container (hreaches.trans hknot)

theorem Value.TiesContainers.untied_ne_null {v : Value} (h : v.TiesContainers) (hv : v ≠ .null) :
    v.untied ≠ .null := by
  induction v using Value.byParts with
  | knot label container ih =>
      refine ih (h.of_reaches (.single (.inside label container))) ?_
      rintro rfl
      exact absurd (h label .null .refl) (by decide)
  | leaf v hleaf => rwa [Value.untied_of_not_container hleaf]
  | _ => simp

namespace Schema

theorem EnumsFrom.hasNoNull {v : Value} {s : Schema} (h : s.EnumsFrom v)
    (hs : s.Everywhere WellFormed) (hties : v.TiesContainers) : s.Everywhere HasNoNull := by
  intro t ht allowed hallowed
  refine (hties.of_reaches (h t ht allowed hallowed)).untied_ne_null ?_
  rintro rfl
  exact (hs t ht).enum hallowed

theorem enumsFrom_ofDocument {v : Value} {s : Schema} (hplain : v.isPlain = true)
    (h : Schema.ofDocument v = .ok s) : s.EnumsFrom v := by
  cases hentries : v.entries? with
  | none =>
      rw [Schema.ofDocument, hentries] at h
      cases h
      exact enumsFrom_empty v
  | some entries =>
      rw [ofDocument_of_entries hentries] at h
      exact (readsParts_of_isPlain hplain).schema s
        (readSchema?_eq_ok_iff.mpr ⟨entries, entries?_eq_some_iff.mp hentries, h⟩)

theorem everywhere_hasNoNull_schemaOf {v : Value} {s : Schema} (hplain : v.isPlain = true)
    (hties : v.TiesContainers) (h : schemaOf v = .ok (some s)) : s.Everywhere HasNoNull := by
  refine everywhere_schemaOf (fun _ _ ht => ht) (fun t ht => ?_) (fun t ht => ?_) h
  · exact (enumsFrom_ofDocument hplain ht).hasNoNull
      (everywhere_wellFormed_ofDocument hplain ht) hties
  · refine (Shorthand.everywhere_isOutput_expand ht).imp fun u hu allowed hallowed => ?_
    obtain ⟨items, rfl⟩ := hu.enum allowed hallowed
    simp

/-! ## Sorting -/

variable {s : Schema}

theorem everywhere_sorted {P : Schema → Prop} (hsorted : ∀ t : Schema, P t → P t.sorted)
    (h : s.Everywhere P) : s.sorted.Everywhere P := by
  induction s using byChildren with
  | step s ih =>
      refine everywhere_iff.mpr ⟨hsorted s h.here, fun t ht => ?_⟩
      obtain ⟨u, hu, rfl | rfl⟩ := sorted_child ht
      · exact ih u hu (h.child hu)
      · exact h.child hu

theorem WellFormed.sorted (h : s.WellFormed) : s.sorted.WellFormed := by
  rw [sorted_eq]
  refine { h with properties := ?_ }
  intro properties hproperties
  obtain ⟨before, hbefore, rfl⟩ := Option.map_eq_some_iff.mp hproperties
  rw [sortedProperties_eq, Entries.names_map (fun e : Text × Schema => e.2.sorted)]
  exact h.properties before hbefore

theorem HasNoNull.sorted (h : s.HasNoNull) : s.sorted.HasNoNull := by
  rwa [sorted_eq]

/-! ## Order -/

/-- No two required names change places when halves of surrogate pairs are put together. -/
def KeepsOrder (s : Schema) : Prop :=
  ∀ a ∈ s.required, ∀ b ∈ s.required, a.isUpTo b = true → a.paired.isUpTo b.paired = true

/-- Names in which nothing is put together keep their order. -/
theorem keepsOrder_of_paired (h : ∀ a ∈ s.required, a.paired = a) : s.KeepsOrder := by
  intro a ha b hb hab
  rwa [h a ha, h b hb]

theorem reaches_sorted {u : Schema} (h : s.sorted.Reaches u) :
    ∃ t, s.Reaches t ∧ u = t.sorted := by
  induction h with
  | refl => exact ⟨s, .refl, rfl⟩
  | tail _ hmember ih =>
      obtain ⟨t, ht, rfl⟩ := ih
      obtain ⟨step, hstep⟩ := member_iff_exists_step?.mp hmember
      rw [step?_sorted] at hstep
      obtain ⟨u, hu, rfl⟩ := Option.map_eq_some_iff.mp hstep
      exact ⟨u, ht.tail (member_iff_exists_step?.mpr ⟨step, hu⟩), rfl⟩

theorem inOrder_sorted (h : ∀ t, s.Reaches t → t.KeepsOrder) : s.sorted.InOrder := by
  intro u hu
  obtain ⟨t, ht, rfl⟩ := reaches_sorted hu
  have hrequired : t.sorted.required = sortNames t.required := by rw [sorted_eq]
  rw [hrequired, List.pairwise_map]
  refine (pairwise_sortNames t.required).imp_of_mem fun {a b} ha hb hab => ?_
  exact h t ht a (List.mem_mergeSort.mp ha) b (List.mem_mergeSort.mp hb) hab

end Schema

/-! ## Main statement -/

theorem reread_of_hasDenoted {s : Schema} (h : s.Everywhere Schema.HasDenoted) :
    s.reread = s := by
  refine mapEnums_enumDocument_eq_self (h.imp fun t ht v items hv => ?_)
    (h.imp fun t ht v hv => ?_)
  · cases ht v hv <;> simp [Value.untied, Value.ofEntries]
  · cases ht v hv <;> rfl

/-- The canonical value of a schema with a type is the value that JSON text of its document,
with sorted names, denotes; and that value is a schema document whose schema has the very
same canonical value. -/
theorem canonical_fixed {v : Value} {s : Schema} {indent : Option Int} {room : Nat} {w : Text}
    (hplain : v.isPlain = true) (hties : v.TiesContainers) (h : schemaOf v = .ok (some s))
    (htype : s.type ≠ []) (hjson : s.json indent room = .ok w)
    (horder : ∀ t, s.Reaches t → t.KeepsOrder) :
    ∃ c t written, s.canonical = .ok c ∧ s.sorted.json none = .ok written ∧
      read written = .ok c ∧ Route.of c = .schema ∧ schemaOf c = .ok (some t) ∧
      t.canonical = .ok c := by
  obtain ⟨hs, hnil | hmem⟩ := everywhere_wellFormed_schemaOf hplain h
  · exact absurd hnil htype
  have hnull := Schema.everywhere_hasNoNull_schemaOf hplain hties h
  -- What is written: the document of the schema itself, and so that of the sorted schema too.
  have hencodable : Encodable s.document := by
    obtain ⟨x, hx, -⟩ := reads_text (mapError_eq_ok_iff.mp hjson) fun s _ => denoted_ascii s
    exact ⟨x, hx⟩
  obtain ⟨c, hc⟩ := Schema.encodable_sorted_iff.mpr hencodable
  obtain ⟨written, hwritten, hreads⟩ := @exists_text {} _ _ hc rfl fun s _ => denoted_ascii s
  -- What is read from it: the document of a schema that is sorted already.
  obtain ⟨t, ht, rfl⟩ :=
    settles (Schema.everywhere_sorted (fun _ => Schema.WellFormed.sorted) hs)
      (Schema.everywhere_sorted (fun _ => Schema.HasNoNull.sorted) hnull) c hc
  have hsorted : t.sorted = t := ht.sorted (Schema.inOrder_sorted horder)
  have hreread : t.reread = t := reread_of_hasDenoted ht.denoted
  have hroute : Route.of t.document = .schema := by
    refine route_document ht.wellFormed.here ?_
    have hpaired : ∀ type ∈ schemaTypes, type.paired = type := by decide
    have hsame : s.sorted.type = s.type := by rw [sorted_eq]
    rwa [ht.type, hsame, hpaired s.type hmem]
  refine ⟨t.document, t, written, ?_, ?_, hreads.read, hroute, ?_, ?_⟩
  · rw [Schema.canonical, Schema.plain, hc]
    rfl
  · rw [Schema.json, hwritten]
    rfl
  · refine schemaOf_eq_ok_some_iff.mpr (.inl ⟨hroute, ?_⟩)
    rw [ofDocument_document ht.wellFormed, hreread]
  · rw [Schema.canonical, Schema.plain, hsorted, plain_plain hc]
    rfl

/-- An object with two properties, one of which has a default that is no JSON value: a tuple,
with a truth value for a key in it. -/
def sides : Value :=
  .map [(.text "required", .list [.text "right", .text "left"]),
    (.text "type", .text "object"),
    (.text "properties", .map [
      (.text "left", .map [(.text "type", .text "string")]),
      (.text "right", .map [(.text "default", .tuple [.null, .map [(.bool true, .null)]])])]),
    (.text "additionalProperties", .bool true)]

def sidesSchema : Schema :=
  { type := "object"
    properties := some [("left", { type := "string" }),
      ("right", { extras := [("default", .tuple [.null, .map [(.bool true, .null)]])] })]
    required := ["right", "left"]
    additional := some (.schema {}) }

theorem canonical_fixed_sides : sides.isPlain = true ∧ sides.TiesContainers ∧
    schemaOf sides = .ok (some sidesSchema) ∧
    ∃ c t, sidesSchema.canonical = .ok c ∧ Route.of c = .schema ∧ schemaOf c = .ok (some t) ∧
      t.canonical = .ok c := by
  have hplain : sides.isPlain = true := by decide
  have hties : sides.TiesContainers := by
    have htext : ∀ s u, (Value.text s).Reaches u ↔ u = .text s :=
      fun s u => Value.reaches_leaf_iff rfl
    have hbool : ∀ b u, (Value.bool b).Reaches u ↔ u = .bool b :=
      fun b u => Value.reaches_leaf_iff rfl
    have hnull : ∀ u, Value.null.Reaches u ↔ u = .null := fun u => Value.reaches_leaf_iff rfl
    intro label container h
    simp [sides, Value.reaches_map_iff, Value.reaches_list_iff, Value.reaches_tuple_iff, htext,
      hbool, hnull] at h
  have hschema : schemaOf sides = .ok (some sidesSchema) := rfl
  obtain ⟨w, hw, -⟩ := @exists_text {} sidesSchema.document _ rfl rfl fun s _ => denoted_ascii s
  have hjson : sidesSchema.json none = .ok w := mapError_eq_ok_iff.mpr hw
  have horder : ∀ t, sidesSchema.Reaches t → t.KeepsOrder := by
    have hleaf : ∀ s : Schema, s.properties = none → s.items = none →
        ∀ t, s.Reaches t → t = s := by
      intro s hproperties hitems t ht
      rcases Relation.ReflTransGen.cases_head ht with rfl | ⟨u, hmember, -⟩
      · rfl
      · cases hmember <;> simp_all
    have hmember :
        ∀ u, sidesSchema.Member u → u.properties = none ∧ u.items = none ∧ u.required = [] := by
      intro u hmember
      cases hmember with
      | property hproperties hmem =>
          obtain rfl := Option.some.inj hproperties
          simp only [List.mem_cons, Prod.mk.injEq, List.not_mem_nil, or_false] at hmem
          rcases hmem with ⟨-, rfl⟩ | ⟨-, rfl⟩ <;> exact ⟨rfl, rfl, rfl⟩
      | items hitems => cases hitems
    intro t ht
    rcases Relation.ReflTransGen.cases_head ht with rfl | ⟨u, hu, hut⟩
    · exact Schema.keepsOrder_of_paired (by decide)
    · obtain ⟨hproperties, hitems, hrequired⟩ := hmember u hu
      obtain rfl := hleaf u hproperties hitems t hut
      exact Schema.keepsOrder_of_paired (by simp [hrequired])
  obtain ⟨c, t, -, hc, -, -, hroute, ht, hfixed⟩ :=
    canonical_fixed hplain hties hschema (by decide) hjson horder
  exact ⟨hplain, hties, hschema, c, t, hc, hroute, ht, hfixed⟩

/-- An object that requires two properties. The name of the first is made of the two halves
of a pair, which come before all other characters that have no pair, and after them once
they are one character. -/
def splitNames : Value :=
  .map [(.text "type", .text "object"),
    (.text "required", .list [.text [.surrogate 0x3d, .surrogate 0x600],
      .text [.char '\uffff']])]

def splitSchema : Schema :=
  { type := "object", required := [[.surrogate 0x3d, .surrogate 0x600], [.char '\uffff']] }

def joinedSchema : Schema :=
  { type := "object", required := [[.char '😀'], [.char '\uffff']] }

/-- Not every canonical value stays as it is: names that are put together
may come out of order. -/
theorem not_canonical_fixed_for_splitNames :
    ¬∀ (v : Value) (s : Schema) (w : Text), v.isPlain = true → v.TiesContainers →
      schemaOf v = .ok (some s) → s.type ≠ [] → s.json none = .ok w →
      ∃ c t, s.canonical = .ok c ∧ Route.of c = .schema ∧ schemaOf c = .ok (some t) ∧
        t.canonical = .ok c := by
  have hties : splitNames.TiesContainers := by
    have htext : ∀ s u, (Value.text s).Reaches u ↔ u = .text s :=
      fun s u => Value.reaches_leaf_iff rfl
    intro label container h
    simp [splitNames, Value.reaches_map_iff, Value.reaches_list_iff, htext] at h
  have hsplit : sortNames splitSchema.required = splitSchema.required :=
    List.mergeSort_of_pairwise (by decide)
  have hjoined : sortNames joinedSchema.required = [[.char '\uffff'], [.char '😀']] :=
    (sortNames_perm (.swap ..)).trans (List.mergeSort_of_pairwise (by decide))
  have hcanonical : splitSchema.canonical = .ok joinedSchema.document := by
    rw [Schema.canonical, sorted_eq, hsplit]
    rfl
  have hread : schemaOf joinedSchema.document = .ok (some joinedSchema) := rfl
  have hagain : joinedSchema.canonical ≠ .ok joinedSchema.document := by
    rw [Schema.canonical, sorted_eq, hjoined]
    intro heq
    exact absurd (congrArg Value.texts (Except.ok.inj heq)) (by decide)
  intro h
  obtain ⟨w, hw⟩ : ∃ w, splitSchema.json none = .ok w := ⟨_, rfl⟩
  obtain ⟨c, t, hc, -, ht, hfixed⟩ :=
    h splitNames splitSchema w (by decide) hties rfl (by decide) hw
  obtain rfl := Except.ok.inj (hcanonical.symm.trans hc)
  obtain rfl := Option.some.inj (Except.ok.inj (hread.symm.trans ht))
  exact hagain hfixed

end TerseSchema
