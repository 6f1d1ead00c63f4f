import TerseSchema.Proofs.Json.Obstacle
import TerseSchema.Proofs.Schema.Passed
/-!
# Which schemas have no JSON text

A schema that is read from a document has no JSON text exactly when something that one of its
nodes holds as it was given has none. The fault is an encoding failure then, with and without
sorted names, and sorting comes first: the names are sorted even where nothing can be written.
-/

namespace TerseSchema

namespace Schema

variable {s : Schema} {v : Value} {indent : Option Int} {room : Nat}

/-- Something that a node holds as it was given stands in the way of a JSON text. -/
inductive Obstructed (s : Schema) : Prop where
  | passed {v w : Value} (hpasses : s.Passes v) (hreaches : v.Reaches w)
      (hobstacle : Json.IsObstacle w)
  /-- A count of more digits than are ever written. -/
  | count {n : Int} (hcounts : s.Counts n) (hlong : TerseSchema.isWritable n = false)

theorem not_obstructed_iff : ¬s.Obstructed ↔
    (∀ v, s.Passes v → Json.Encodable v) ∧ ∀ n, s.Counts n → Json.Encodable (.int n) := by
  have hcount : ∀ n, Json.Encodable (.int n) ↔ TerseSchema.isWritable n = true :=
    fun _ => Json.exists_plainWithin_int_iff
  simp only [hcount]
  simp only [Json.encodable_iff]
  constructor
  · intro h
    refine ⟨fun v hv w hw hobstacle => h (.passed hv hw hobstacle), fun n hn => ?_⟩
    exact Bool.eq_true_of_not_eq_false fun hlong => h (.count hn hlong)
  · rintro ⟨hpasses, hcounts⟩ (⟨hv, hw, hobstacle⟩ | ⟨hn, hlong⟩)
    · exact hpasses _ hv _ hw hobstacle
    · exact Bool.false_ne_true (hlong.symm.trans (hcounts _ hn))

theorem isInherited_encodable : Value.IsInherited Json.Encodable where
  text s := ⟨.text s.paired, rfl⟩
  bool b := ⟨.bool b, rfl⟩
  list _ := Json.exists_plainWithin_list_iff
  ofEntries _ _ := Json.encodable_ofEntries_iff

theorem encodable_document_iff (hs : s.Everywhere WellFormed) :
    Json.Encodable s.document ↔ ∀ t, s.Node t → ¬t.Obstructed := by
  rw [isInherited_encodable.document_iff hs]
  exact forall₂_congr fun t _ => not_obstructed_iff.symm

/-! ## Texts -/

theorem exists_error_plain_iff : (∃ f, s.plain = .error f) ↔ ¬Json.Encodable s.document := by
  simp only [plain, mapError_eq_error_iff, Json.Encodable]
  cases Json.plain s.document <;> simp

theorem notEncodable_of_plain {f : Failure} (h : s.plain = .error f) :
    ∃ fault, f = ⟨.notEncodable fault, []⟩ := by
  obtain ⟨fault, hfault, rfl⟩ := mapError_eq_error_iff.mp h
  exact ⟨fault, Json.failure_of_plainWithin hfault⟩

/-- Within the limits of indentation, a schema has a JSON text that is read as its plain value,
or it has neither, by one failure. -/
theorem sameEnd_json (hindent : Json.indentLimit? { indent, room } s.document = none) :
    SameEnd Json.Reads (s.json indent room) s.plain :=
  (@Json.sameEnd_text { indent, room } s.document hindent fun s _ =>
    Json.denoted_ascii s).mapError Json.Fault.failure

theorem exists_error_json_of_limit {l : Limit}
    (hindent : Json.indentLimit? { indent, room } s.document = some l) :
    ∃ f, s.json indent room = .error f := by
  rw [document_eq_putAll, Value.ofEntries] at hindent
  rw [json, document_eq_putAll, Value.ofEntries, Json.text.eq_def]
  simp [hindent, Except.mapError]

theorem json_eq_error_iff {f : Failure}
    (hindent : Json.indentLimit? { indent, room } s.document = none) :
    s.json indent room = .error f ↔ s.plain = .error f := by
  have hend := sameEnd_json hindent
  generalize s.json indent room = outcome, s.plain = other at hend
  cases hend <;> simp

theorem exists_error_json_iff (hindent : Json.indentLimit? { indent, room } s.document = none) :
    (∃ f, s.json indent room = .error f) ↔ ¬Json.Encodable s.document := by
  simp only [json_eq_error_iff hindent, exists_error_plain_iff]

/-! ## In place -/

/-- What is written is read, and the schema is left sorted, whether or not
anything has been written. -/
theorem run_canonicalizeInPlace (s : Schema) :
    (canonicalizeInPlace.run s).run = (s.canonical.map .ok, s.sorted) := by
  have hend : SameEnd Json.Reads (s.sorted.json none) s.sorted.plain := sameEnd_json rfl
  show ((s.sorted.json none).map Json.read, s.sorted) = (s.sorted.plain.map .ok, s.sorted)
  generalize s.sorted.json none = outcome, s.sorted.plain = other at hend ⊢
  cases hend with
  | ok hreads => rw [Except.map, Except.map, hreads.read]
  | error f => rfl

/-! ## Main statement -/

/-- A schema of plain data has a document of plain data. It has a JSON text unless the
indentation is beyond the limits, or some node is obstructed, which is an encoding failure.
It has a canonical value exactly when it has a JSON text without indentation, and is left
sorted in either case. -/
theorem encodes_unless_obstructed (hplain : v.isPlain = true) (h : schemaOf v = .ok (some s)) :
    (∀ w, s.document.Reaches w → w ≠ .forbidden ∧ ∀ t, w ≠ .schema t) ∧
    (∀ indent room, (∃ f, s.json indent room = .error f) ↔
      Json.indentLimit? { indent, room } s.document ≠ none ∨ ∃ t, s.Node t ∧ t.Obstructed) ∧
    (∀ indent room f, Json.indentLimit? { indent, room } s.document = none →
      s.json indent room = .error f → ∃ fault, f = ⟨.notEncodable fault, []⟩) ∧
    ((∃ f, s.canonical = .error f) ↔ ∃ f, s.json none = .error f) ∧
    (∀ f, s.canonical = .error f → ∃ fault, f = ⟨.notEncodable fault, []⟩) ∧
    (canonicalizeInPlace.run s).run = (s.canonical.map .ok, s.sorted) := by
  have hs := (everywhere_wellFormed_schemaOf hplain h).1
  have hobstructed : ¬Json.Encodable s.document ↔ ∃ t, s.Node t ∧ t.Obstructed := by
    rw [encodable_document_iff hs]
    push Not
    rfl
  refine ⟨fun w hw => ?_, fun indent room => ?_, fun indent room f hindent hf => ?_, ?_,
    fun f => notEncodable_of_plain, run_canonicalizeInPlace s⟩
  · have hdata :=
      Value.isPlain_of_reaches
        (isPlain_document hs (everywhere_hasPlainEnum_schemaOf hplain h)) hw
    constructor
    · rintro rfl
      cases hdata
    · rintro t rfl
      cases hdata
  · cases hindent : Json.indentLimit? { indent, room } s.document with
    | none => simpa [hindent] using (exists_error_json_iff hindent).trans hobstructed
    | some l => exact iff_of_true (exists_error_json_of_limit hindent) (.inl (by simp))
  · exact notEncodable_of_plain ((json_eq_error_iff hindent).mp hf)
  · rw [exists_error_json_iff rfl, canonical, exists_error_plain_iff, encodable_sorted_iff]

def dated : Value :=
  .map [(.text "type", .text "object"),
    (.text "required", .list [.text "name", .text "born"]),
    (.text "properties", .map [
      (.text "name", .map [(.text "type", .text "string")]),
      (.text "born", .map [(.text "default", .date ⟨2000, 2, 29⟩)])])]

def bornSchema : Schema := { extras := [("default", .date ⟨2000, 2, 29⟩)] }

def datedSchema : Schema :=
  { type := "object", properties := some [("name", { type := "string" }), ("born", bornSchema)]
    required := ["name", "born"] }

theorem encodes_unless_obstructed_dated :
    dated.isPlain = true ∧ schemaOf dated = .ok (some datedSchema) ∧
    (∃ fault, datedSchema.json (some 2) = .error ⟨.notEncodable fault, []⟩) ∧
    (∃ f, datedSchema.canonical = .error f) ∧
    (canonicalizeInPlace.run datedSchema).run.2 = datedSchema.sorted := by
  have hplain : dated.isPlain = true := by decide
  have hschema : schemaOf dated = .ok (some datedSchema) := rfl
  have hobstructed : ∃ t, datedSchema.Node t ∧ t.Obstructed := by
    have hchild : datedSchema.Child bornSchema :=
      .property rfl (List.mem_cons_of_mem _ List.mem_cons_self)
    have hpasses : bornSchema.Passes (.date ⟨2000, 2, 29⟩) :=
      .extra List.mem_cons_self (by decide)
    exact ⟨bornSchema, .single hchild, .passed hpasses .refl (.date _)⟩
  obtain ⟨-, hjson, hfailure, hcanonical, -, hplace⟩ := encodes_unless_obstructed hplain hschema
  obtain ⟨f, hf⟩ := (hjson (some 2) Json.usualRoom).mpr (.inr hobstructed)
  obtain ⟨fault, rfl⟩ := hfailure (some 2) Json.usualRoom f (by decide) hf
  exact ⟨hplain, hschema, ⟨fault, hf⟩, hcanonical.mpr ((hjson none _).mpr (.inr hobstructed)),
    congrArg Prod.snd hplace⟩

def longLimit : Value :=
  .map [(.text "type", .text "string"), (.text "minLength", .int longNumber)]

def longLimitSchema : Schema := { type := "string", extras := [("minLength", .int longNumber)] }

theorem schemaOf_minLength (n : Nat) :
    schemaOf (.map [(.text "type", .text "string"), (.text "minLength", .int n)]) =
      .ok (some { type := "string", extras := [("minLength", .int n)] }) := by
  rfl

theorem obstructed_longLimitSchema : longLimitSchema.Obstructed :=
  .count (.extra List.mem_cons_self (by decide)) isWritable_longNumber

/-- A schema has no JSON text for a long count too, which was not given to be passed on, whatever
values are held to have none; and under an indentation beyond all lengths even a schema with
nothing in it fails, in another way. -/
theorem not_passed_alone_for_longLimit :
    (¬∃ P : Value → Prop, ∀ (v : Value) (s : Schema), v.isPlain = true →
      schemaOf v = .ok (some s) →
      ((∃ f, s.json none = .error f) ↔ ∃ t w u, s.Node t ∧ t.Passes w ∧ w.Reaches u ∧ P u)) ∧
    schemaOf (.text "any") = .ok (some {}) ∧
      ({} : Schema).json (some 100000000000000000000) = .error ⟨.limit .wideIndent, []⟩ := by
  refine ⟨?_, rfl, rfl⟩
  rintro ⟨P, h⟩
  have hleaf : ∀ u, ¬longLimitSchema.Child u :=
    not_child rfl rfl rfl (List.forall_mem_singleton.mpr (by rintro t ⟨⟩))
  have hschema : schemaOf longLimit = .ok (some longLimitSchema) :=
    schemaOf_minLength (Nat.pow 10 mostDigits)
  have hfails : ∃ f, longLimitSchema.json none = .error f := by
    rw [exists_error_json_iff rfl,
      encodable_document_iff (everywhere_wellFormed_schemaOf rfl hschema).1]
    exact fun hclear => hclear _ .refl obstructed_longLimitSchema
  -- So one of the nodes would pass a value on, but the only node has a count and nothing else.
  obtain ⟨t, w, u, hnode, hpasses, -, -⟩ := (h longLimit longLimitSchema rfl hschema).mp hfails
  obtain rfl := eq_of_node hnode hleaf
  cases hpasses with
  | allowed henum => cases henum
  | extra hextra hshape =>
      obtain ⟨rfl, -⟩ := Prod.mk.inj (List.mem_singleton.mp hextra)
      exact absurd hshape (by decide)

end Schema
end TerseSchema
