import TerseSchema.Proofs.Field.Reordering
import TerseSchema.Proofs.Routing
import TerseSchema.Proofs.Shorthand.Reordering
/-!
# The order in which a document is written

A document whose maps are put into another order takes the same route, and it describes a schema
if and only if the document did. On the routes of schema documents the two schemas are equal up
to the order of entries; in shorthand their canonical values are, as long as the entries that are
moved do not meet under one name.
-/

namespace TerseSchema

variable {free : List Value → Prop} {v w : Value}

/-! ## Routes -/

theorem field?_eq_some_iff {name : Text} {entries : List (Value × Value)}
    (hkeys : (entries.map Prod.fst).Nodup) :
    Value.field? name entries = some v ↔ (.text name, v) ∈ entries := by
  refine ⟨mem_of_field?, fun hmem => ?_⟩
  induction entries with
  | nil => simp at hmem
  | cons e rest ih =>
      obtain ⟨k, x⟩ := e
      rw [List.map_cons, List.nodup_cons] at hkeys
      rcases List.mem_cons.mp hmem with heq | hrest
      · cases heq
        simp [Value.field?]
      · have hk : k ≠ .text name := by
          rintro rfl
          exact hkeys.1 (List.mem_map.mpr ⟨_, hrest, rfl⟩)
        rw [← ih hkeys.2 hrest]
        cases k with
        | text key => exact if_neg fun heq => hk (congrArg Value.text heq)
        | _ => rfl

/-- What can be told of the value of a field in whatever order its maps are, can be told in
whatever order the document is. -/
theorem any_field?_of_shuffle {p : Value → Bool} (hp : ∀ v w, v.Shuffle free w → p v = p w)
    {entries others : List (Value × Value)} (h : (Value.map entries).Shuffle free (.map others))
    (hkeys : (entries.map Prod.fst).Nodup) (name : Text) :
    (Value.field? name entries).any p = (Value.field? name others).any p := by
  cases h with
  | map hperm _ =>
      have hothers : (others.map Prod.fst).Nodup := (hperm.map Prod.fst).nodup_iff.mp hkeys
      have hfield : Value.field? name entries = Value.field? name others := by
        ext v
        rw [field?_eq_some_iff hkeys, field?_eq_some_iff hothers, hperm.mem_iff]
      rw [hfield]
  | @entry before after k v w h =>
      clear hkeys
      induction before with
      | nil =>
          cases k with
          | text key => by_cases hkey : key = name <;> simp [Value.field?, hkey, hp v w h]
          | _ => rfl
      | cons e before ih =>
          obtain ⟨k', x⟩ := e
          cases k' with
          | text key => by_cases hkey : key = name <;> simp [Value.field?, hkey, ih]
          | _ => exact ih

theorem isSchemaType_of_shuffle (h : v.Shuffle free w) : v.isSchemaType = w.isSchemaType := by
  cases h <;> rfl

theorem entries?_eq_none_of_shuffle (h : v.Shuffle free w) (hentries : v.entries? = none) :
    w.entries? = none := by
  cases hothers : w.entries? with
  | none => rfl
  | some others =>
      have hinside := h.untied
      rw [entries?_eq_some_iff.mp hothers] at hinside
      generalize hv : v.untied = x at hinside
      cases hinside <;> simp [entries?_eq_some_iff.mpr hv] at hentries

theorem route_of_shuffle (h : v.Shuffle free w) (hplain : v.isPlain = true)
    (hkeys : v.TextKeyed) : Route.of v = Route.of w := by
  cases hentries : v.entries? with
  | none => simp only [Route.of, hentries, entries?_eq_none_of_shuffle h hentries]
  | some entries =>
      have hmap := entries?_eq_some_iff.mp hentries
      obtain ⟨others, hother, hinside⟩ := h.entries hmap
      have hnodup : (entries.map Prod.fst).Nodup :=
        (Value.distinctKeys_iff_nodup (hkeys entries (hmap ▸ Value.reaches_untied v))).mp
          (Value.isPlain_of_untied_map hplain hmap).1
      simp only [Route.of, hentries, entries?_eq_some_iff.mpr hother,
        any_field?_of_shuffle (fun _ _ => isSchemaType_of_shuffle) hinside hnodup,
        any_field?_of_shuffle (fun _ _ => Value.Shuffle.isMap_eq) hinside hnodup]

/-! ## Schemas -/

theorem exists_ofDocument_of_shuffle (h : v.Shuffle anyKeys w) (hplain : v.isPlain = true)
    (hkeys : v.TextKeyed) {s : Schema} (hread : Schema.ofDocument v = .ok s) :
    ∃ t, Schema.ofDocument w = .ok t ∧ s.Reordered anyKeys t := by
  cases hentries : v.entries? with
  | none =>
      rw [Schema.ofDocument, hentries] at hread
      rw [Schema.ofDocument, entries?_eq_none_of_shuffle h hentries]
      exact ⟨s, hread, .refl⟩
  | some entries =>
      rw [ofDocument_of_entries hentries] at hread
      have hreads : Rereads v w := fun _ _ _ => exists_readField_of_shuffle h hplain hkeys
      obtain ⟨t, hst, ht⟩ := hreads.schema
        (readSchema?_eq_ok_iff.mpr ⟨entries, entries?_eq_some_iff.mp hentries, hread⟩)
      obtain ⟨others, hother, hothers⟩ := readSchema?_eq_ok_iff.mp ht
      exact ⟨t, by rw [ofDocument_of_entries (entries?_eq_some_iff.mpr hother), hothers], hst⟩

/-- A shuffled document describes a schema if the document does, and on the routes of schema
documents the two schemas are equal up to the order of entries. -/
theorem exists_schemaOf_of_shuffle (h : v.Shuffle anyKeys w) (hplain : v.isPlain = true)
    (hkeys : v.TextKeyed) {s : Schema} (hschema : schemaOf v = .ok (some s)) :
    ∃ t, schemaOf w = .ok (some t) ∧ (Route.of v ≠ .shorthand → s.Reordered anyKeys t) := by
  have hroute := route_of_shuffle h hplain hkeys
  rcases schemaOf_eq_ok_some_iff.mp hschema with ⟨hv, hread⟩ | ⟨hv, s, hread, rfl⟩ |
    ⟨-, hv, hexpand⟩
  · obtain ⟨t, ht, hst⟩ := exists_ofDocument_of_shuffle h hplain hkeys hread
    exact ⟨t, schemaOf_eq_ok_some_iff.mpr (.inl ⟨hroute ▸ hv, ht⟩), fun _ => hst⟩
  · obtain ⟨t, ht, hst⟩ := exists_ofDocument_of_shuffle h hplain hkeys hread
    refine ⟨{ t with type := "object" }, schemaOf_eq_ok_some_iff.mpr
      (.inr (.inl ⟨hroute ▸ hv, t, ht, rfl⟩)), fun _ => ?_⟩
    have hedited := Schema.reordered_edit (f := fun _ => "object") (g := id) (e := id)
      (fun _ _ => id) hst
    simpa [Schema.edit] using hedited
  · obtain ⟨t, ht⟩ := (Shorthand.exists_expand_iff_of_shuffle h).mp ⟨s, hexpand⟩
    have hnull : w ≠ .null := by
      rintro rfl
      cases h
    exact ⟨t, schemaOf_eq_ok_some_iff.mpr (.inr (.inr ⟨hnull, hroute ▸ hv, ht⟩)),
      fun hother => absurd hv hother⟩

/-! ## Reordering -/

theorem plain_textKeyed_of_reordered (h : v.Reordered free w) (hplain : v.isPlain = true)
    (hkeys : v.TextKeyed) : w.isPlain = true ∧ w.TextKeyed := by
  induction h with
  | refl => exact ⟨hplain, hkeys⟩
  | tail _ hstep ih => exact hstep.plain_textKeyed ih.1 ih.2

theorem route_of_reordered (h : v.Reordered free w) (hplain : v.isPlain = true)
    (hkeys : v.TextKeyed) : Route.of v = Route.of w := by
  induction h with
  | refl => rfl
  | tail hbefore hstep ih =>
      obtain ⟨hplainBefore, hkeysBefore⟩ := plain_textKeyed_of_reordered hbefore hplain hkeys
      exact ih.trans (route_of_shuffle hstep hplainBefore hkeysBefore)

theorem exists_schemaOf_of_reordered (h : v.Reordered anyKeys w) (hplain : v.isPlain = true)
    (hkeys : v.TextKeyed) {s : Schema} (hschema : schemaOf v = .ok (some s)) :
    ∃ t, schemaOf w = .ok (some t) ∧ (Route.of v ≠ .shorthand → s.Reordered anyKeys t) := by
  induction h with
  | refl => exact ⟨s, hschema, fun _ => .refl⟩
  | tail hbefore hstep ih =>
      obtain ⟨hplainBefore, hkeysBefore⟩ := plain_textKeyed_of_reordered hbefore hplain hkeys
      obtain ⟨t, ht, hst⟩ := ih
      obtain ⟨u, hu, htu⟩ := exists_schemaOf_of_shuffle hstep hplainBefore hkeysBefore ht
      rw [← route_of_reordered hbefore hplain hkeys] at htu
      exact ⟨u, hu, fun hroute => (hst hroute).trans (htu hroute)⟩

theorem exists_schemaOf_iff_of_reordered (h : v.Reordered anyKeys w) (hplain : v.isPlain = true)
    (hkeys : v.TextKeyed) : (∃ s, schemaOf v = .ok s) ↔ ∃ t, schemaOf w = .ok t := by
  have hone : ∀ {v w : Value}, v.Reordered anyKeys w → v.isPlain = true → v.TextKeyed →
      (∃ s, schemaOf v = .ok s) → ∃ t, schemaOf w = .ok t := by
    rintro v w h hplain hkeys ⟨_ | s, hs⟩
    · obtain rfl := eq_null_of_schemaOf hs
      rcases Relation.ReflTransGen.cases_head h with rfl | ⟨x, hstep, -⟩
      · exact ⟨none, hs⟩
      · cases hstep
    · obtain ⟨t, ht, -⟩ := exists_schemaOf_of_reordered h hplain hkeys hs
      exact ⟨some t, ht⟩
  obtain ⟨hplain', hkeys'⟩ := plain_textKeyed_of_reordered h hplain hkeys
  exact ⟨hone h hplain hkeys,
    hone (Value.reordered_symm (fun _ _ _ _ => trivial) h) hplain' hkeys'⟩

namespace Shorthand

theorem exists_expand_of_reordered {apart : List Text → Prop}
    (hapart : ∀ names, apart names → names.Nodup) (h : Shorthand.Reordered apart v w)
    {s : Schema} (hexpand : expand v = .ok s) :
    ∃ t, expand w = .ok t ∧ s.sorted.Reordered (TextKeys apart) t.sorted := by
  induction h with
  | refl => exact ⟨s, hexpand, .refl⟩
  | tail _ hstep ih =>
      obtain ⟨t, ht, hst⟩ := ih
      obtain ⟨u, hu, htu⟩ := exists_expand_of_shuffle hapart hstep ht
      exact ⟨u, hu, hst.trans htu⟩

end Shorthand

/-- The order in which a document is written does not tell in its route, in whether it describes
a schema, nor, but for the order of entries, in the schema that is read from it or in the
canonical value of the schema that it expands to. -/
theorem canonical_of_any_order {v : Value} (hplain : v.isPlain = true) (hkeys : v.TextKeyed)
    (w : Value) (h : v.Reordered anyKeys w) :
    Route.of v = Route.of w ∧
    ((∃ s, schemaOf v = .ok s) ↔ ∃ t, schemaOf w = .ok t) ∧
    ∀ s t, schemaOf v = .ok (some s) → schemaOf w = .ok (some t) →
      (Route.of v ≠ .shorthand → s.Reordered anyKeys t) ∧
      (Route.of v = .shorthand → Shorthand.Reordered Json.Apart v w →
        (∃ x y, s.canonical = .ok x ∧ t.canonical = .ok y ∧ x.Reordered anyKeys y) ∨
          ∃ e f, s.canonical = .error ⟨.notEncodable e, []⟩ ∧
            t.canonical = .error ⟨.notEncodable f, []⟩) := by
  have hroute := route_of_reordered h hplain hkeys
  refine ⟨hroute, exists_schemaOf_iff_of_reordered h hplain hkeys, fun s t hs ht => ⟨?_, ?_⟩⟩
  · intro hdocument
    obtain ⟨u, hu, hsu⟩ := exists_schemaOf_of_reordered h hplain hkeys hs
    obtain rfl : t = u := Option.some.inj (Except.ok.inj (ht.symm.trans hu))
    exact hsu hdocument
  · intro hshorthand hmoved
    have hexpand := expand_of_route_shorthand hshorthand hs
    have hother := expand_of_route_shorthand (hroute ▸ hshorthand) ht
    obtain ⟨u, hu, hsorted⟩ :=
      Shorthand.exists_expand_of_reordered (fun _ => List.Nodup.of_map _) hmoved hexpand
    obtain rfl : t = u := Except.ok.inj (hother.symm.trans hu)
    exact Schema.canonical_of_reordered
      ((Shorthand.everywhere_isOutput_expand hexpand).imp fun _ hu => hu.extras) hsorted

def ordered : List (Value × Value) :=
  [(.text "name", .text "string"),
    (.text "size", .map [(.text "width", .text "number"), (.text "depth?", .text "any")]),
    (.text "*", .text "integer")]

def mixed : List (Value × Value) :=
  [(.text "*", .text "integer"),
    (.text "size", .map [(.text "depth?", .text "any"), (.text "width", .text "number")]),
    (.text "name", .text "string")]

def sizeSchema : Schema :=
  { type := "object"
    properties := some [("width", { type := "number" }), ("depth", {})]
    required := [("width" : Text)]
    additional := some .forbidden }

def orderedSchema : Schema :=
  { type := "object"
    properties := some [("name", { type := "string" }), ("size", sizeSchema)]
    required := [("name" : Text), "size"]
    additional := some (.schema { type := "integer" }) }

theorem canonical_of_any_order_mixed : (Value.map ordered).isPlain = true ∧
    (Value.map ordered).TextKeyed ∧ (Value.map ordered).Reordered anyKeys (.map mixed) ∧
    Route.of (.map ordered) = .shorthand ∧
    Shorthand.Reordered Json.Apart (.map ordered) (.map mixed) ∧
    schemaOf (.map ordered) = .ok (some orderedSchema) ∧
    ∃ t x y, schemaOf (.map mixed) = .ok (some t) ∧ orderedSchema.canonical = .ok x ∧
      t.canonical = .ok y ∧ x.Reordered anyKeys y := by
  have hplain : (Value.map ordered).isPlain = true := by decide
  have hkeys : (Value.map ordered).TextKeyed := by
    have htext : ∀ s, (Value.text s).TextKeyed := fun s => Value.textKeyed_leaf rfl
    simp [ordered, Value.textKeyed_map_iff, htext]
  have hinside : Shorthand.Shuffle Json.Apart
      (.map [(.text "width", .text "number"), (.text "depth?", .text "any")])
      (.map [(.text "depth?", .text "any"), (.text "width", .text "number")]) :=
    .map (.swap _ _ _) (by decide) (by decide)
  have hmoved : Shorthand.Reordered Json.Apart (.map ordered) (.map mixed) := by
    refine .tail (.single (@Shorthand.Shuffle.entry _ [_] _ _ _ _ (by decide) hinside)) ?_
    exact .map (List.reverse_perm mixed) (by decide) (by decide)
  have hvalue : (Value.map ordered).Reordered anyKeys (.map mixed) :=
    Relation.ReflTransGen.mono (fun _ _ => Shorthand.Shuffle.value) _ _ hmoved
  have hroute : Route.of (.map ordered) = .shorthand := by decide
  have hs : schemaOf (.map ordered) = .ok (some orderedSchema) := rfl
  obtain ⟨t, ht⟩ : ∃ t, schemaOf (.map mixed) = .ok (some t) := ⟨_, rfl⟩
  have hkept : ∀ names : List Text, names.Pairwise (Text.isUpTo · · = true) →
      sortNames names = names := fun names => List.mergeSort_of_pairwise
  have hsorted : orderedSchema.sorted = orderedSchema := by
    have hnone : sortNames [] = [] := hkept _ (by decide)
    have hwidth : sortNames [("width" : Text)] = [("width" : Text)] := hkept _ (by decide)
    have hboth : sortNames [("name" : Text), "size"] = [("name" : Text), "size"] :=
      hkept _ (by decide)
    simp [orderedSchema, sizeSchema, Schema.sorted, sortedProperties, hnone, hwidth, hboth]
  obtain ⟨x, hx⟩ : ∃ x, orderedSchema.canonical = .ok x := by
    rw [Schema.canonical, hsorted]
    exact ⟨_, rfl⟩
  obtain ⟨-, -, hschemas⟩ := canonical_of_any_order hplain hkeys (.map mixed) hvalue
  rcases (hschemas _ t hs ht).2 hroute hmoved with ⟨x, y, hx, hy, hxy⟩ | ⟨e, -, he, -⟩
  · exact ⟨hplain, hkeys, hvalue, hroute, hmoved, hs, t, x, y, ht, hx, hy, hxy⟩
  · rw [hx] at he
    cases he

/-- Two properties with names that are different texts, a character and the two halves of it,
and one text in JSON. -/
def twins : List (Value × Value) :=
  [(.text [.char '😀', .char '?'], .text "integer"),
    (.text [.surrogate ⟨0x3d, by decide⟩, .surrogate ⟨0x600, by decide⟩, .char '?'],
      .text "string")]

def twinSchema : Schema :=
  { type := "object"
    properties := some [([.char '😀'], { type := "integer" }),
      ([.surrogate ⟨0x3d, by decide⟩, .surrogate ⟨0x600, by decide⟩], { type := "string" })]
    additional := some .forbidden }

def swappedTwinSchema : Schema :=
  { type := "object"
    properties :=
      some [([.surrogate ⟨0x3d, by decide⟩, .surrogate ⟨0x600, by decide⟩],
        { type := "string" }),
      ([.char '😀'], { type := "integer" })]
    additional := some .forbidden }

def twinObject (type : Text) : Value :=
  .ofEntries [("type", .text "object"),
    ("properties", .ofEntries [([.char '😀'], .ofEntries [("type", .text type)])]),
    ("additionalProperties", .bool false)]

/-- Different names do not suffice: of two names that are one in JSON, the one that
is written last counts. -/
theorem not_reordered_for_twins :
    (Value.map twins).isPlain = true ∧ (Value.map twins).TextKeyed ∧
    (Value.map twins).Reordered anyKeys (.map twins.reverse) ∧
    Route.of (.map twins) = .shorthand ∧
    Shorthand.Reordered List.Nodup (.map twins) (.map twins.reverse) ∧
    schemaOf (.map twins) = .ok (some twinSchema) ∧
    schemaOf (.map twins.reverse) = .ok (some swappedTwinSchema) ∧
    twinSchema.canonical = .ok (twinObject "string") ∧
    swappedTwinSchema.canonical = .ok (twinObject "integer") ∧
    ¬(twinObject "string").Reordered anyKeys (twinObject "integer") := by
  have hkeys : (Value.map twins).TextKeyed := by
    have htext : ∀ s, (Value.text s).TextKeyed := fun s => Value.textKeyed_leaf rfl
    simp [twins, Value.textKeyed_map_iff, htext]
  have hmoved : Shorthand.Reordered List.Nodup (.map twins) (.map twins.reverse) :=
    .single (.map (List.reverse_perm twins).symm (by decide) (by decide))
  have hvalue : (Value.map twins).Reordered anyKeys (.map twins.reverse) :=
    .single (.map (List.reverse_perm twins).symm trivial)
  have hnone : sortNames [] = [] := List.mergeSort_nil
  have hsorted : twinSchema.sorted = twinSchema := by
    simp [twinSchema, Schema.sorted, sortedProperties, hnone]
  have hswapped : swappedTwinSchema.sorted = swappedTwinSchema := by
    simp [swappedTwinSchema, Schema.sorted, sortedProperties, hnone]
  refine ⟨by decide, hkeys, hvalue, by decide, hmoved, rfl, rfl, ?_, ?_, fun h => ?_⟩
  · rw [Schema.canonical, hsorted]
    rfl
  · rw [Schema.canonical, hswapped]
    rfl
  · have htext : ∀ s u, (Value.text s).Reaches u ↔ u = .text s := fun s u =>
      Value.reaches_leaf_iff rfl
    have hbool : ∀ b u, (Value.bool b).Reaches u ↔ u = .bool b := fun b u =>
      Value.reaches_leaf_iff rfl
    have hstring : (twinObject "string").Reaches (.text "string") := by
      simp [twinObject, Value.ofEntries, Value.reaches_map_iff, htext]
    have hreached := Value.reaches_of_reordered h rfl hstring
    simp [twinObject, Value.ofEntries, Value.reaches_map_iff, htext, hbool,
      Text.ofString_inj] at hreached

end TerseSchema
