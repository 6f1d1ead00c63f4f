import TerseSchema.Proofs.Field.Failing
/-!
# Where the mapping of a schema fails

The path of a failure leads through nested schemas to the first one that is at fault, and its
cause tells which field it is and what is wrong there. First is meant in the order of the
document, from the outside in, so that nothing after that place matters.
-/

namespace TerseSchema

/-- Whether a value is a map with an entry before which each entry converts on its own. -/
def ConvertsUpTo (v k u : Value) : Prop :=
  ∃ before after, v.untied = .map (before ++ (k, u) :: after) ∧ ∀ e ∈ before, Converts [e]

/-- The steps from a field to a schema nested in its value. The items of a list, and the entries
of a map of schemas, are schemas up to the one that is taken. -/
inductive Leg (field : Text) : Shape → Value → List Segment → Value → Prop where
  | schema {shape : Shape} (u : Value) (hshape : shape = .schema ∨ shape = .schemaOrBool) :
      Leg field shape u [.key field] u
  | item {u x : Value} {done later : List Value} (hu : u.items? = some (done ++ x :: later))
      (hdone : ∀ y ∈ done, Describes y) :
      Leg field .schemas u [.key field, .index done.length] x
  | entry {u k x : Value} {done later : List (Value × Value)}
      (hu : u.untied = .map (done ++ (k, x) :: later))
      (hdone : ∀ e ∈ done, e.1.HasText ∧ Describes e.2) (hkey : k.HasText) :
      Leg field .schemaMap u [.key field, .key k.keyText] x

/-- The path from a schema document to one nested in it. -/
inductive Walk : Value → List Segment → Value → Prop where
  | here (v : Value) : Walk v [] v
  | field {v u x w : Value} {field : Text} {shape : Shape} {steps path : List Segment}
      (hv : ConvertsUpTo v (.text field) u) (hshape : Shape.ofField? field = some shape)
      (hleg : Leg field shape u steps x) (h : Walk x path w) : Walk v (steps ++ path) w

/-- What is wrong with the value of a field, but for nested schemas, and the
steps to where it is. -/
inductive Ill (field : Text) : Shape → Value → List Segment → Cause → Prop where
  | kind {shape : Shape} {u : Value} (hkind : shape.admits u.untied = false)
      (hend : ∀ label container, u.untied ≠ .cut label container) :
      Ill field shape u [] (.fieldMismatch field shape.wanted (shape.found u.untied).name none)
  | text {u x : Value} {done later : List Value} (hu : u.items? = some (done ++ x :: later))
      (hdone : ∀ y ∈ done, ∃ s, y = .text s) (hx : ∀ s, x ≠ .text s) :
      Ill field .strings u [] (.fieldMismatch field "string" x.kind.name (some done.length))
  | item {u x : Value} {done later : List Value} (hu : u.items? = some (done ++ x :: later))
      (hdone : ∀ y ∈ done, Describes y) (hx : x.isMap = false) :
      Ill field .schemas u [] (.fieldMismatch field "object" x.kind.name (some done.length))
  | entry {u k x : Value} {done later : List (Value × Value)}
      (hu : u.untied = .map (done ++ (k, x) :: later))
      (hdone : ∀ e ∈ done, e.1.HasText ∧ Describes e.2) (hkey : k.HasText)
      (hx : x.isMap = false) :
      Ill field .schemaMap u [.key field, .key k.keyText]
        (.fieldMismatch field "object" x.kind.name none)

/-- What is wrong with a map as a schema document, but for nested schemas. -/
inductive Faulty (w : Value) : List Segment → Cause → Prop where
  | unknown {k u : Value} (hw : ConvertsUpTo w k u)
      (hk : ∀ field shape, k = .text field → Shape.ofField? field ≠ some shape)
      (hshown : k.HasText) :
      Faulty w [] (.unrecognizedField k.keyText)
  | field {u : Value} {field : Text} {shape : Shape} {steps : List Segment} {cause : Cause}
      (hw : ConvertsUpTo w (.text field) u) (hshape : Shape.ofField? field = some shape)
      (hu : Ill field shape u steps cause) : Faulty w steps cause

/-! ## Values of fields -/

/-- The value of a field is of the wrong kind. -/
theorem ill_of_not_admits {field : Text} {shape : Shape} {u : Value} {f : Failure}
    (hany : shape ≠ .any) (hf : ∀ l, f.cause ≠ .limit l)
    (hadmits : shape.admits u.untied = false) (h : readField field shape u = .error f) :
    Ill field shape u f.path f.cause := by
  have hend : ∀ label container, u.untied ≠ .cut label container := by
    intro label container hu
    rw [readField_untied hany, hu] at h
    cases shape <;> first | exact absurd rfl hany | (cases h; exact absurd rfl (hf _))
  rw [readField_untied hany, readField_of_not_admits hadmits u.untied_ne_knot hend] at h
  cases h
  exact .kind hadmits hend

/-- The value of a field that is a map for a schema fails as a schema does. -/
theorem exists_leg_of_map {field : Text} {shape : Shape} {u : Value}
    {entries : List (Value × Value)} {f : Failure}
    (hshape : shape = .schema ∨ shape = .schemaOrBool) (hu : u.untied = .map entries)
    (h : readField field shape u = .error f) :
    ∃ steps x g, Leg field shape u steps x ∧ readSchema? x = some (.error g) ∧
    f = g.nest steps := by
  obtain ⟨g, hg, rfl⟩ := (readField_schema_eq_error_iff hshape hu).mp h
  exact ⟨_, u, g, .schema u hshape, hg, rfl⟩

/-- The value of a field fails in a schema nested in it, or for itself. -/
theorem leg_or_ill_of_readField {field : Text} {shape : Shape} {u : Value} {f : Failure}
    (hf : ∀ l, f.cause ≠ .limit l) (h : readField field shape u = .error f) :
    (∃ steps x g, Leg field shape u steps x ∧ readSchema? x = some (.error g) ∧
      f = g.nest steps) ∨ Ill field shape u f.path f.cause := by
  by_cases hany : shape = .any
  · rw [hany, readField_any] at h
    cases h
  cases hadmits : shape.admits u.untied with
  | false => exact .inr (ill_of_not_admits hany hf hadmits h)
  | true =>
      cases shape with
      | any => exact absurd rfl hany
      | strings =>
          obtain ⟨items, hu⟩ := exists_items_of_admits (.inl rfl) hadmits
          rw [readField_strings hu, map_eq_error_iff, textItems_eq_error_iff] at h
          obtain ⟨done, x, later, rfl, hdone, hx, rfl⟩ := h
          exact .inr (.text hu hdone hx)
      | schemas =>
          obtain ⟨items, hu⟩ := exists_items_of_admits (.inr rfl) hadmits
          rw [readField_schemas hu, map_eq_error_iff, readSchemas_eq_error_iff] at h
          obtain ⟨done, x, later, rfl, hdone, hfails⟩ := h
          cases hfails with
          | nested hx => exact .inl ⟨_, x, _, .item hu hdone, hx, rfl⟩
          | kind hx => exact .inr (.item hu hdone hx)
      | schemaMap =>
          obtain ⟨entries, hu⟩ := exists_entries_of_admits (.inr rfl) hadmits
          rw [readField_schemaMap hu, map_eq_error_iff, readSchemaMap_eq_error_iff hf] at h
          obtain ⟨done, ⟨k, x⟩, later, rfl, hdone, hfails⟩ := h
          cases hfails with
          | nested hkey hx hlimit => exact .inl ⟨_, x, _, .entry hu hdone hkey, hx, rfl⟩
          | kind hkey hx => exact .inr (.entry hu hdone hkey hx)
      | schema =>
          obtain ⟨entries, hu⟩ := exists_entries_of_admits (.inl rfl) hadmits
          exact .inl (exists_leg_of_map (.inl rfl) hu h)
      | schemaOrBool =>
          cases hu : u.untied with
          | map entries => exact .inl (exists_leg_of_map (.inr rfl) hu h)
          | bool b =>
              rw [readField_untied hany, hu] at h
              cases h
          | _ => simp [hu, Shape.admits] at hadmits
      | string =>
          obtain ⟨c, hc⟩ := exists_readField_of_admits field (.inl rfl) hadmits
          simp [hc] at h
      | bool =>
          obtain ⟨c, hc⟩ := exists_readField_of_admits field (.inr (.inl rfl)) hadmits
          simp [hc] at h
      | count =>
          obtain ⟨c, hc⟩ := exists_readField_of_admits field (.inr (.inr rfl)) hadmits
          simp [hc] at h

theorem readField_of_leg {field : Text} {shape : Shape} {u x : Value} {steps : List Segment}
    {g : Failure} (hleg : Leg field shape u steps x) (hg : ∀ l, g.cause ≠ .limit l)
    (hx : readSchema? x = some (.error g)) :
    readField field shape u = .error (g.nest steps) := by
  cases hleg with
  | schema u hshape =>
      obtain ⟨entries, hu, -⟩ := (readSchema?_eq_error_iff hg).mp hx
      exact (readField_schema_eq_error_iff hshape hu).mpr ⟨g, hx, rfl⟩
  | item hu hdone =>
      rw [readField_schemas hu, map_eq_error_iff, readSchemas_eq_error_iff]
      exact ⟨_, _, _, rfl, hdone, .nested hx⟩
  | entry hu hdone hkey =>
      rw [readField_schemaMap hu, map_eq_error_iff]
      refine (readSchemaMap_eq_error_iff ?_).mpr ⟨_, _, _, rfl, hdone, .nested hkey hx hg⟩
      exact hg

theorem readField_of_ill {field : Text} {shape : Shape} {u : Value} {steps : List Segment}
    {cause : Cause} (h : Ill field shape u steps cause) :
    readField field shape u = .error ⟨cause, steps⟩ := by
  cases h with
  | kind hkind hend =>
      have hany : shape ≠ .any := by
        rintro rfl
        cases hkind
      rw [readField_untied hany, readField_of_not_admits hkind u.untied_ne_knot hend]
      rfl
  | text hu hdone hx =>
      rw [readField_strings hu, map_eq_error_iff, textItems_eq_error_iff]
      exact ⟨_, _, _, rfl, hdone, hx, rfl⟩
  | item hu hdone hx =>
      rw [readField_schemas hu, map_eq_error_iff, readSchemas_eq_error_iff]
      exact ⟨_, _, _, rfl, hdone, .kind hx⟩
  | entry hu hdone hkey hx =>
      rw [readField_schemaMap hu, map_eq_error_iff, readSchemaMap_eq_error_iff (by simp)]
      exact ⟨_, _, _, rfl, hdone, .kind hkey hx⟩

/-! ## Places -/

def Blames (v : Value) (f : Failure) : Prop :=
  ∃ path w steps, f.path = path ++ steps ∧ Walk v path w ∧ Faulty w steps f.cause

theorem cause_of_ill {field : Text} {shape : Shape} {u : Value} {steps : List Segment}
    {cause : Cause} (h : Ill field shape u steps cause) (l : Limit) : cause ≠ .limit l := by
  cases h <;> simp

theorem cause_of_faulty {w : Value} {steps : List Segment} {cause : Cause}
    (h : Faulty w steps cause) (l : Limit) : cause ≠ .limit l := by
  cases h with
  | unknown _ _ _ => simp
  | field _ _ hu => exact cause_of_ill hu l

/-- A failure of a schema document, given that those of the schemas nested in
its fields blame places. -/
theorem blames_of_readFields {v : Value} {entries : List (Value × Value)} {f : Failure}
    (hv : v.untied = .map entries) (hf : ∀ l, f.cause ≠ .limit l)
    (hnested : ∀ e ∈ entries, ∀ field shape steps x g, Leg field shape e.2 steps x →
      readSchema? x = some (.error g) → (∀ l, g.cause ≠ .limit l) → Blames x g)
    (h : readFields {} entries = .error f) : Blames v f := by
  obtain ⟨before, ⟨k, u⟩, after, rfl, hbefore, hfails⟩ := readFields_eq_error_iff.mp h
  have hupto : ConvertsUpTo v k u := ⟨before, after, hv, hbefore⟩
  cases hfails with
  | unknown hk =>
      by_cases hshown : k.HasText
      · have hcause :
            Cause.showing k (.unrecognizedField k.keyText) = .unrecognizedField k.keyText :=
          if_pos hshown
        simp only [hcause]
        exact ⟨[], v, [], rfl, .here v, .unknown hupto hk hshown⟩
      · exact absurd (if_neg hshown) (hf .longNumeral)
  | value hkey hshape hread =>
      cases hkey
      rcases leg_or_ill_of_readField hf hread with ⟨steps, x, g, hleg, hx, rfl⟩ | hill
      · obtain ⟨path, w, last, hpath, hwalk, hfaulty⟩ := hnested _ (by simp) _ _ _ _ _ hleg hx hf
        refine ⟨steps ++ path, w, last, ?_, .field hupto hshape hleg hwalk, hfaulty⟩
        rw [Failure.nest, hpath, List.append_assoc]
      · exact ⟨[], v, f.path, rfl, .here v, .field hupto hshape hill⟩

/-- Failures blame places in a value, and in the schemas nested in it where it is
the value of a field. -/
theorem blames_of_readSchema? (v : Value) :
    (∀ f, readSchema? v = some (.error f) → (∀ l, f.cause ≠ .limit l) → Blames v f) ∧
    ∀ field shape steps x g, Leg field shape v steps x → readSchema? x = some (.error g) →
      (∀ l, g.cause ≠ .limit l) → Blames x g := by
  induction v using Value.byContents with
  | step v ihItems ihEntries =>
      have hhere : ∀ f, readSchema? v = some (.error f) → (∀ l, f.cause ≠ .limit l) →
          Blames v f := by
        intro f h hf
        obtain ⟨entries, hv, hread⟩ := (readSchema?_eq_error_iff hf).mp h
        exact blames_of_readFields hv hf (fun e he => (ihEntries entries hv e he).2) hread
      refine ⟨hhere, fun field shape steps x g hleg => ?_⟩
      cases hleg with
      | schema _ _ => exact hhere g
      | item hu _ => exact (ihItems _ hu x (by simp)).1 g
      | @entry _ k _ _ _ hu _ _ => exact (ihEntries _ hu (k, x) (by simp)).1 g

theorem readSchema?_of_walk {v w : Value} {path steps : List Segment} {cause : Cause}
    (h : Walk v path w) (hfaulty : Faulty w steps cause) :
    readSchema? v = some (.error ⟨cause, path ++ steps⟩) := by
  have hcause := cause_of_faulty hfaulty
  have hread : ∀ v k u f, ConvertsUpTo v k u → FieldFails (k, u) f → (∀ l, f.cause ≠ .limit l) →
      readSchema? v = some (.error f) := by
    rintro v k u f ⟨before, after, hv, hbefore⟩ hfails hf
    exact (readSchema?_eq_error_iff hf).mpr
      ⟨_, hv, readFields_eq_error_iff.mpr ⟨before, _, after, rfl, hbefore, hfails⟩⟩
  induction h with
  | here w =>
      cases hfaulty with
      | @unknown k u hw hk hshown =>
          have hfails : FieldFails (k, u) ⟨.showing k (.unrecognizedField k.keyText), []⟩ :=
            .unknown hk
          rw [Cause.showing, if_pos hshown] at hfails
          exact hread _ _ _ _ hw hfails hcause
      | field hw hshape hu =>
        exact hread _ _ _ _ hw (.value rfl hshape (readField_of_ill hu)) hcause
  | field hv hshape hleg _ ih =>
      have hfield := readField_of_leg (g := ⟨cause, _⟩) hleg hcause (ih hfaulty)
      rw [Failure.nest] at hfield
      rw [List.append_assoc]
      exact hread _ _ _ _ hv (.value rfl hshape hfield) hcause

/-- A failure of a schema document blames the first place that is at fault. However the entries
after it go on, there and on the way there, the failure is the same. All else comes from a key
that cannot be written or from a container that lies inside of itself. -/
theorem blames_first_of_ofFields {entries : List (Value × Value)} {f : Failure}
    (h : Schema.ofFields entries = .error f) :
    (∃ path w steps, f.path = path ++ steps ∧ Walk (.map entries) path w ∧
      Faulty w steps f.cause ∧
      ∀ others w', Walk (.map others) path w' → Faulty w' steps f.cause →
        Schema.ofFields others = .error f) ∨
    (f.cause = .limit .longNumeral ∧ (Value.map entries).HasLongKey) ∨
    (f.cause = .limit .endless ∧ (Value.map entries).HasCut) := by
  have hschema : readSchema? (.map entries) = some (.error f) := congrArg some h
  have hblames : (∀ l, f.cause ≠ .limit l) → ∃ path w steps, f.path = path ++ steps ∧
      Walk (.map entries) path w ∧ Faulty w steps f.cause ∧
      ∀ others w', Walk (.map others) path w' → Faulty w' steps f.cause →
        Schema.ofFields others = .error f := by
    intro hf
    obtain ⟨path, w, steps, hpath, hwalk, hfaulty⟩ := (blames_of_readSchema? _).1 f hschema hf
    refine ⟨path, w, steps, hpath, hwalk, hfaulty, fun others w' hothers hsame => ?_⟩
    have hread := readSchema?_of_walk hothers hsame
    rw [← hpath] at hread
    exact Option.some.inj hread
  cases explained_readSchema? (failsExplained _) hschema with
  | unrecognized hcause => exact .inl (hblames (by simp [hcause]))
  | mismatch hcause => exact .inl (hblames (by simp [hcause]))
  | longKey hcause hlong => exact .inr (.inl ⟨hcause, hlong⟩)
  | endless hcause hcut => exact .inr (.inr ⟨hcause, hcut⟩)

/-- A required name that is none, in a schema of a list within a map of schemas, and
more at fault after it. -/
def misfielded : List (Value × Value) :=
  [(.text "type", .text "object"),
    (.text "properties", .map [
      (.text "a", .map [(.text "anyOf", .list [.map [],
        .map [(.text "required", .list [.text "x", .null, .null]),
          (.text "nullable", .null)]])]),
      (.text "b", .null)]),
    (.text "title", .null)]

def misfielding : Failure :=
  ⟨.fieldMismatch "required" "string" "null" (some 1),
    [.key "properties", .key "a", .key "anyOf", .index 1]⟩

theorem blames_first_misfielded : Schema.ofFields misfielded = .error misfielding ∧
    ∃ path w steps, misfielding.path = path ++ steps ∧ Walk (.map misfielded) path w ∧
      Faulty w steps misfielding.cause ∧
      ∀ others w', Walk (.map others) path w' → Faulty w' steps misfielding.cause →
        Schema.ofFields others = .error misfielding := by
  have hfails : Schema.ofFields misfielded = .error misfielding := rfl
  refine ⟨hfails, (blames_first_of_ofFields hfails).resolve_right ?_⟩
  rintro (⟨hcause, -⟩ | ⟨hcause, -⟩) <;> cases hcause

end TerseSchema
