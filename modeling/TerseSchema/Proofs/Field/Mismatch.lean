import TerseSchema.Proofs.Field.Blame
/-!
# What a mismatch of kinds is about

A failure that finds a value to be of the wrong kind tells where that value is. Its path leads to
the map that has the field, and an index counts the items of the field's value; or the path leads
to a value in a map of schemas that should have been a map. The kind that the failure names is
the kind of the value there, but for one case: a float with a whole value below zero, where a
count is wanted, is named as that whole number.
-/

namespace TerseSchema

namespace Value

/-- One step into a value: to the value under a key of a map, told by the text of the key, or to
the item of a list or tuple at a position. -/
inductive Step (v : Value) : Segment → Value → Prop where
  | key {k u : Value} {entries : List (Value × Value)} (hv : v.untied = .map entries)
      (hmem : (k, u) ∈ entries) : Step v (.key k.keyText) u
  | index {u : Value} {items : List Value} {i : Nat} (hv : v.items? = some items)
      (hget : items[i]? = some u) : Step v (.index i) u

inductive At : Value → List Segment → Value → Prop where
  | here (v : Value) : At v [] v
  | step {v u w : Value} {segment : Segment} {path : List Segment} (hstep : v.Step segment u)
      (h : At u path w) : At v (segment :: path) w

/-- Whether a map has a value under the name of a field. -/
def HasField (v : Value) (field : Text) (u : Value) : Prop :=
  ∃ entries, v.untied = .map entries ∧ (.text field, u) ∈ entries

/-- Whether no two keys of one map, here or further in, are the same text
once they are written. -/
def KeysApart (v : Value) : Prop :=
  ∀ entries, v.Reaches (.map entries) → (entries.map fun e => e.1.keyText).Nodup

/-- Whether a value is a float with a whole value below zero. -/
def IsWholeBelowZero (v : Value) : Prop :=
  ∃ x n, v.untied = .float x ∧ x.toInt? = some n ∧ n < 0

variable {v u w x y : Value} {field : Text} {segment : Segment} {path more : List Segment}

theorem kind_untied (v : Value) : v.untied.kind = v.kind := by
  induction v using byParts with
  | knot label container ih => exact ih
  | leaf v hleaf => rw [untied_of_not_container hleaf]
  | _ => rfl

theorem isMap_untied (v : Value) : v.untied.isMap = v.isMap := by
  induction v using byParts with
  | knot label container ih => exact ih
  | leaf v hleaf => rw [untied_of_not_container hleaf]
  | _ => rfl

/-! ## Paths -/

theorem step_key_iff {name : Text} :
    v.Step (.key name) u ↔
      ∃ entries k, v.untied = .map entries ∧ (k, u) ∈ entries ∧ k.keyText = name := by
  constructor
  · intro h
    cases h with
    | key hv hmem => exact ⟨_, _, hv, hmem, rfl⟩
  · rintro ⟨entries, k, hv, hmem, rfl⟩
    exact .key hv hmem

theorem step_index_iff {position : Int} :
    v.Step (.index position) u ↔
      ∃ items i, v.items? = some items ∧ items[i]? = some u ∧ Int.ofNat i = position := by
  constructor
  · intro h
    cases h with
    | index hv hget => exact ⟨_, _, hv, hget, rfl⟩
  · rintro ⟨items, i, hv, hget, rfl⟩
    exact .index hv hget

theorem Step.reaches (h : v.Step segment u) : v.Reaches u := by
  cases h with
  | key hv hmem => exact reaches_value hv hmem
  | index hv hget => exact reaches_item hv (List.mem_of_getElem? hget)

theorem HasField.step (h : v.HasField field u) : v.Step (.key field) u := by
  obtain ⟨entries, hv, hmem⟩ := h
  exact .key hv hmem

theorem At.single (h : v.Step segment u) : v.At [segment] u := .step h (.here u)

theorem At.append (hpath : v.At path u) (hmore : u.At more w) : v.At (path ++ more) w := by
  induction hpath with
  | here v => exact hmore
  | step hstep _ ih => exact .step hstep (ih hmore)

theorem KeysApart.nodup {entries : List (Value × Value)} (h : v.KeysApart)
    (hv : v.untied = .map entries) : (entries.map fun e => e.1.keyText).Nodup := by
  refine h entries ?_
  rw [← hv]
  exact reaches_untied v

theorem KeysApart.of_reaches (h : v.KeysApart) (hu : v.Reaches u) : u.KeysApart :=
  fun entries hentries => h entries (hu.trans hentries)

theorem Step.unique (hv : v.KeysApart) (hx : v.Step segment x) (hy : v.Step segment y) :
    x = y := by
  cases segment with
  | key name =>
      obtain ⟨entries, k, hmap, hk, rfl⟩ := step_key_iff.mp hx
      obtain ⟨others, other, hmap', hother, htext⟩ := step_key_iff.mp hy
      obtain rfl : others = entries := Value.map.inj (hmap'.symm.trans hmap)
      exact congrArg Prod.snd (List.inj_on_of_nodup_map (hv.nodup hmap) hk hother htext.symm)
  | index position =>
      obtain ⟨items, i, hitems, hi, rfl⟩ := step_index_iff.mp hx
      obtain ⟨others, j, hitems', hj, hposition⟩ := step_index_iff.mp hy
      obtain rfl : others = items := Option.some.inj (hitems'.symm.trans hitems)
      obtain rfl : j = i := Int.ofNat.inj hposition
      exact Option.some.inj (hi.symm.trans hj)
  | flag b => cases hx

/-- Where keys are told apart by their texts, a path leads to one value only. -/
theorem At.unique (hv : v.KeysApart) (hx : v.At path x) (hy : v.At path y) : x = y := by
  induction hx with
  | here v =>
      cases hy
      rfl
  | step hstep _ ih =>
      cases hy with
      | step hstep' hy =>
          obtain rfl := hstep.unique hv hstep'
          exact ih (hv.of_reaches hstep.reaches) hy

theorem HasField.ne_of_not_isMap (h : w.HasField field u) (hx : x.isMap = false) : w ≠ x := by
  rintro rfl
  obtain ⟨entries, hw, -⟩ := h
  rw [← isMap_untied, hw] at hx
  cases hx

end Value

/-! ## What is concerned -/

/-- The value that a mismatch with this path, field and index is about: the value of the field in
the map that the path leads to; the item of it at the index; or, in a map of schemas under the
field, the value that the path ends at if that is no map. -/
inductive Concerns (v : Value) (path : List Segment) (field : Text) :
    Option Int → Value → Prop where
  | value {w u : Value} (hpath : v.At path w) (hfield : w.HasField field u) :
      Concerns v path field none u
  | item {w u x : Value} {i : Int} (hpath : v.At path w) (hfield : w.HasField field u)
      (hitem : u.Step (.index i) x) : Concerns v path field (some i) x
  | entry {x : Value} {outer : List Segment} {name : Text}
      (hlast : path = outer ++ [.key field, .key name])
      (hpath : v.At path x) (hmap : x.isMap = false) : Concerns v path field none x

/-- The kind that a mismatch names for a value: its own, but for a whole number below zero where
the field is a count. -/
structure NamesKind (field : Text) (x : Value) (found : Text) : Prop where
  own : ¬(Shape.ofField? field = some .count ∧ x.IsWholeBelowZero) → found = x.kind.name
  whole : Shape.ofField? field = some .count ∧ x.IsWholeBelowZero → found = "integer"

section

variable {v w u x y : Value} {field found wanted : Text} {shape : Shape} {index : Option Int}
  {path steps : List Segment}

/-- Where keys are told apart by their texts, a mismatch is about one value only. -/
theorem Concerns.unique (hv : v.KeysApart) (hx : Concerns v path field index x)
    (hy : Concerns v path field index y) : x = y := by
  cases hx with
  | value hw hfield =>
      cases hy with
      | value hw' hfield' =>
          exact (hw.append (.single hfield.step)).unique hv (hw'.append (.single hfield'.step))
      -- The path would lead to a map and to what is none.
      | entry _ hy hmap => exact absurd (hw.unique hv hy) (hfield.ne_of_not_isMap hmap)
  | item hw hfield hitem =>
      cases hy with
      | item hw' hfield' hitem' =>
          exact (hw.append (.step hfield.step (.single hitem))).unique hv
            (hw'.append (.step hfield'.step (.single hitem')))
  | entry _ hx hmap =>
      cases hy with
      | value hw hfield => exact absurd (hw.unique hv hx) (hfield.ne_of_not_isMap hmap)
      | entry _ hy _ => exact hx.unique hv hy

/-! ## What is named -/

theorem found_of_isWholeBelowZero (h : u.IsWholeBelowZero) :
    Shape.count.found u.untied = .integer := by
  obtain ⟨r, n, hu, hr, -⟩ := h
  rw [hu, Shape.found, hr]
  rfl

/-- A whole number that is not admitted as a count is below zero, so that no
other value is renamed. -/
theorem found_eq_kind (hadmits : shape.admits u.untied = false)
    (hwhole : ¬(shape = .count ∧ u.IsWholeBelowZero)) : shape.found u.untied = u.kind := by
  rw [← u.kind_untied]
  cases hu : u.untied with
  | float r =>
      cases shape with
      | count =>
          cases hr : r.toInt? with
          | none =>
              rw [Shape.found, hr]
              rfl
          | some n =>
              have hn : n < 0 := by simpa [hu, Shape.admits, hr] using hadmits
              exact absurd ⟨rfl, r, n, hu, hr, hn⟩ hwhole
      | _ => rfl
  | _ => cases shape <;> rfl

theorem namesKind_of_not_admits (hshape : Shape.ofField? field = some shape)
    (hadmits : shape.admits u.untied = false) :
    NamesKind field u (shape.found u.untied).name := by
  have hcount : Shape.ofField? field = some .count ↔ shape = .count := by
    rw [hshape, Option.some.injEq]
  refine ⟨fun hnot => ?_, ?_⟩
  · rw [hcount] at hnot
    rw [found_eq_kind hadmits hnot]
  · rintro ⟨hfield, hwhole⟩
    obtain rfl := hcount.mp hfield
    rw [found_of_isWholeBelowZero hwhole]
    rfl

/-- Where no count is wanted, a value goes by its own kind. -/
theorem namesKind_of_shape (hshape : Shape.ofField? field = some shape)
    (hcount : shape ≠ .count) : NamesKind field x x.kind.name := by
  refine ⟨fun _ => rfl, ?_⟩
  rintro ⟨hfield, -⟩
  rw [hshape] at hfield
  exact absurd (Option.some.inj hfield) hcount

/-! ## From the failure to the value -/

theorem ConvertsUpTo.hasField (h : ConvertsUpTo v (.text field) u) : v.HasField field u := by
  obtain ⟨before, after, hv, -⟩ := h
  exact ⟨_, hv, by simp⟩

theorem at_of_leg (hfield : v.HasField field u) (hleg : Leg field shape u steps x) :
    v.At steps x := by
  cases hleg with
  | schema _ _ => exact .single hfield.step
  | item hu _ => exact .step hfield.step (.single (.index hu (by simp)))
  | entry hu _ _ => exact .step hfield.step (.single (.key hu (by simp)))

theorem at_of_walk (h : Walk v path w) : v.At path w := by
  induction h with
  | here v => exact .here v
  | field hv _ hleg _ ih => exact (at_of_leg hv.hasField hleg).append ih

theorem exists_concerns_of_ill (hw : v.At path w) (hfield : w.HasField field u)
    (hshape : Shape.ofField? field = some shape) {named : Text}
    (h : Ill field shape u steps (.fieldMismatch named wanted found index)) :
    ∃ x, Concerns v (path ++ steps) named index x ∧ NamesKind named x found := by
  cases h with
  | kind hkind _ =>
      rw [List.append_nil]
      exact ⟨u, .value hw hfield, namesKind_of_not_admits hshape hkind⟩
  | @text _ x _ _ hu _ _ | @item _ x _ _ hu _ _ =>
      rw [List.append_nil]
      exact ⟨x, .item hw hfield (.index hu (by simp)), namesKind_of_shape hshape (by decide)⟩
  | @entry _ k x _ _ hu _ _ hx =>
      have hentry : w.At [.key field, .key k.keyText] x :=
        .step hfield.step (.single (.key hu (by simp)))
      exact ⟨x, .entry rfl (hw.append hentry) hx, namesKind_of_shape hshape (by decide)⟩

end

/-- A mismatch names the kind of the value that it is about, as that stands in the document,
unless a count is wanted and the value is a float with a whole value below zero. Where keys are
told apart by their texts, path, field and index leave no doubt which value that is. -/
theorem names_kind_of_ofFields {entries : List (Value × Value)} {field wanted found : Text}
    {index : Option Int} {path : List Segment}
    (h : Schema.ofFields entries = .error ⟨.fieldMismatch field wanted found index, path⟩) :
    ∃ x, Concerns (.map entries) path field index x ∧ NamesKind field x found ∧
      ((Value.map entries).KeysApart →
        ∀ y, Concerns (.map entries) path field index y → y = x) := by
  have hschema : readSchema? (.map entries) =
      some (.error ⟨.fieldMismatch field wanted found index, path⟩) :=
    congrArg some h
  obtain ⟨way, w, steps, hpath, hwalk, hfaulty⟩ :=
    (blames_of_readSchema? _).1 _ hschema (by simp)
  simp only at hpath hfaulty
  subst hpath
  cases hfaulty with
  | field hw hshape hill =>
      obtain ⟨x, hx, hnames⟩ := exists_concerns_of_ill (at_of_walk hwalk) hw.hasField hshape hill
      exact ⟨x, hx, hnames, fun hapart y hy => hy.unique hapart hx⟩

def minusTwo : Binary64 := .finite true 4503599627370496 (-51) (by decide)

def misrequired : List (Value × Value) :=
  [(.text "items", .map [
    (.text "properties", .map
      [(.bool true, .map [(.text "required", .list [.text "a", .float minusTwo])])])])]

def misrequiredPath : List Segment := [.key "items", .key "properties", .key "True"]

theorem names_kind_misrequired :
    Schema.ofFields misrequired =
      .error ⟨.fieldMismatch "required" "string" "number" (some 1), misrequiredPath⟩ ∧
    ∃ x, Concerns (.map misrequired) misrequiredPath "required" (some 1) x ∧
      NamesKind "required" x "number" ∧
      ((Value.map misrequired).KeysApart →
        ∀ y, Concerns (.map misrequired) misrequiredPath "required" (some 1) y → y = x) := by
  have hfails : Schema.ofFields misrequired =
      .error ⟨.fieldMismatch "required" "string" "number" (some 1), misrequiredPath⟩ := rfl
  exact ⟨hfails, names_kind_of_ofFields hfails⟩

def belowZeroLimit : List (Value × Value) := [(.text "maxItems", .float minusTwo)]

/-- The kind that is named is not always the one in the document. -/
theorem not_names_kind_for_belowZeroLimit :
    Schema.ofFields belowZeroLimit =
      .error ⟨.fieldMismatch "maxItems" "unsigned integer" "integer" none, []⟩ ∧
    ¬∃ x, Concerns (.map belowZeroLimit) [] "maxItems" none x ∧
    ("integer" : Text) = x.kind.name := by
  refine ⟨rfl, ?_⟩
  rintro ⟨x, hx, hkind⟩
  cases hx with
  | value hpath hfield =>
      cases hpath
      obtain ⟨entries, hentries, hmem⟩ := hfield
      obtain rfl : belowZeroLimit = entries := Value.map.inj hentries
      obtain ⟨-, rfl⟩ := Prod.mk.inj (List.mem_singleton.mp hmem)
      exact absurd hkind (by decide)
  | entry hlast _ _ => simp at hlast

end TerseSchema
