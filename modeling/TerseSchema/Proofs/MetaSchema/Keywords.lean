import TerseSchema.Field.Mapping
import TerseSchema.Proofs.MetaSchema.Meeting
import TerseSchema.Routing
/-!
# Keywords

Every field of a schema document is a keyword of the meta-schema, and what is demanded of
its value is told by its shape, but for a few fields by name. So a document is held
against its own fields alone.
-/

namespace TerseSchema.MetaSchema

open TerseSchema

/-- What the vocabularies demand of the values of their keywords. -/
def keywordDemands : Entries Demand :=
  schemaRules.flatMap fun
    | .properties named => named
    | _ => []

def numberFields : List Text := ["maximum", "exclusiveMaximum", "minimum", "exclusiveMinimum"]

def demandFor (name : Text) : Shape → Demand
  | .any =>
    if name ∈ numberFields then number
    else if name = "multipleOf" then positiveNumber
    else if name = "enum" ∨ name = "examples" then list
    else .anything
  | .string =>
    if name = "type" then simpleTypes
    else if name = "$id" then identifier
    else if name = "$anchor" then anchor
    else string
  | .count => nonNegativeInteger
  | .bool => boolean
  | .strings => stringArray
  | .schema => .schema
  | .schemas => schemaArray
  | .schemaMap => schemaMap
  | .schemaOrBool => .schema

private theorem nodup_names_keywordDemands : (Entries.names keywordDemands).Nodup := by
  decide +kernel

set_option maxRecDepth 4000 in
private theorem map_get?_keywordDemands :
    fieldShapes.map (fun e => keywordDemands.get? e.1) =
      fieldShapes.map fun e => some (demandFor e.1 e.2) := by
  rfl

/-- Every field is a keyword, once, and its shape tells what is demanded of it. -/
theorem mem_keywordDemands_iff {name : Text} {shape : Shape} {d : Demand}
    (hshape : Shape.ofField? name = some shape) :
    (name, d) ∈ keywordDemands ↔ d = demandFor name shape := by
  have hget : keywordDemands.get? name = some (demandFor name shape) :=
    List.map_inj_left.mp map_get?_keywordDemands (name, shape) (Entries.mem_of_get? hshape)
  rw [← Entries.get?_eq_some_iff nodup_names_keywordDemands, hget, Option.some.injEq]
  exact eq_comm

/-! ## Documents -/

private theorem rule_of_mem_schemaRules {r : Rule} (h : r ∈ schemaRules) :
    r = schemaType ∨ ∃ named, r = .properties named := by
  simp only [schemaRules, vocabularies, core, applicator, unevaluated, validation, metaData,
    formatAnnotation, content, dialect, List.flatten_cons, List.flatten_nil, List.cons_append,
    List.nil_append, List.mem_cons, List.not_mem_nil, or_false] at h
  rcases h with h | h | h | h | h | h | h | h | h | h | h | h | h | h | h | h <;>
    first | exact .inl h | exact .inr ⟨_, h⟩

/-- A map of known fields is a schema when each field meets what its shape tells. -/
theorem meets_schema_ofEntries_iff {es : Entries Value} (hnames : (Entries.names es).Nodup)
    (hfields : ∀ e ∈ es, ∃ shape, Shape.ofField? e.1 = some shape) :
    Meets (.ofEntries es) .schema ↔
      ∀ e ∈ es, ∀ shape, Shape.ofField? e.1 = some shape → Meets e.2 (demandFor e.1 shape) := by
  rw [meets_schema_iff (by simp [Value.ofEntries])]
  constructor
  · rintro h ⟨name, v⟩ hmem shape hshape
    obtain ⟨r, hr, hkeyword⟩ := List.mem_flatMap.mp ((mem_keywordDemands_iff hshape).mpr rfl)
    cases r with
    | properties named => exact (meetsRule_properties_iff hnames).mp (h _ hr) _ hkeyword v hmem
    | _ => cases hkeyword
  · intro h r hr
    rcases rule_of_mem_schemaRules hr with rfl | ⟨named, rfl⟩
    · exact meetsRule_type_iff.mpr rfl
    · refine (meetsRule_properties_iff hnames).mpr fun e he v hmem => ?_
      obtain ⟨shape, hshape⟩ := hfields _ hmem
      have hkeyword : (e.1, e.2) ∈ keywordDemands := List.mem_flatMap.mpr ⟨_, hr, he⟩
      rw [(mem_keywordDemands_iff hshape).mp hkeyword]
      exact h _ hmem shape hshape

/-! ## Values of fields -/

def IsNumber (v : Value) : Prop := (∃ n, v = .int n) ∨ ∃ x, v = .float x

/-- A list, also where one that lies inside of itself is cut off. -/
def IsList (v : Value) : Prop :=
  (∃ items, v.untied = .list items) ∨ ∃ label, v.untied = .cut label .list

theorem hasType_number_iff {v : Value} : hasType v .number = true ↔ IsNumber v := by
  cases v <;> simp [hasType, isNumber, IsNumber]

theorem hasType_array_iff {v : Value} : hasType v .array = true ↔ IsList v := by
  simp only [hasType, isList, IsList]
  cases v.untied <;> simp

/-- A demand for types asks nothing of the parts of a value. -/
theorem meets_type_iff {v : Value} {names : List TypeName} :
    Meets v (.rules [.type names]) ↔ names.any (hasType v) = true := by
  by_cases hcut : ∃ label container, v = .cut label container
  · obtain ⟨label, container, rfl⟩ := hcut
    simp [Meets, judge, verdictOn, metUnseen, ruleMetUnseen]
  · simp only [not_exists] at hcut
    simp [meets_rules_iff hcut, meetsRule_type_iff]

theorem meets_number_iff {v : Value} : Meets v number ↔ IsNumber v := by
  rw [number, meets_type_iff, ← hasType_number_iff]
  simp

theorem anything_of_mem_judgeParts (v : Value) :
    ∀ verdict ∈ (judgeParts v).items, verdict .anything = .ok [] := by
  induction v using Value.byParts with
  | list items _ =>
      rw [judgeParts, judgeItems_eq, List.forall_mem_map]
      exact fun w _ => meets_anything w
  | knot label container ih => exact ih
  | leaf v hleaf => cases v <;> simp [judgeParts, Value.isContainer] at hleaf ⊢
  | _ => simp [judgeParts]

theorem meets_list_iff {v : Value} : Meets v list ↔ IsList v := by
  rw [← hasType_array_iff]
  by_cases hcut : ∃ label container, v = .cut label container
  · obtain ⟨label, container, rfl⟩ := hcut
    simp [Meets, list, judge, verdictOn, metUnseen, ruleMetUnseen]
  · simp only [not_exists] at hcut
    have hitems : MeetsRule v (.items .anything) :=
      meetsRule_items_iff.mpr (anything_of_mem_judgeParts v)
    simp [list, meets_rules_iff hcut, meetsRule_type_iff, hitems]

/-- A number is above zero unless its place on the number line tells that it is not. -/
theorem meets_positiveNumber_iff {v : Value} : Meets v positiveNumber ↔
    IsNumber v ∧ ∀ m, v.magnitude? = some m → (Magnitude.ratio 0 1).less m = true := by
  by_cases hcut : ∃ label container, v = .cut label container
  · obtain ⟨label, container, rfl⟩ := hcut
    simp [Meets, positiveNumber, judge, verdictOn, metUnseen, ruleMetUnseen, IsNumber]
  · simp only [not_exists] at hcut
    simp only [positiveNumber, meets_rules_iff hcut, List.forall_mem_cons, meetsRule_type_iff,
      meetsRule_positive_iff, ← hasType_number_iff]
    cases hnumber : isNumber v <;> cases hm : v.magnitude? <;>
      simp [hasType, isAtMostZero, hnumber, hm]

/-! Texts, truth values and counts. -/

theorem meets_string (s : Text) : Meets (.text s) string := meets_type_iff.mpr rfl

theorem meets_boolean (b : Bool) : Meets (.bool b) boolean := meets_type_iff.mpr rfl

theorem meets_count (n : Nat) : Meets (.int n) nonNegativeInteger := by
  rw [nonNegativeInteger, meets_rules_iff (by simp)]
  simp [meetsRule_type_iff, meetsRule_notNegative_iff, hasType, isInteger, isBelowZero,
    Value.magnitude?, Magnitude.less]

theorem meets_pattern_iff {s source : Text} {pattern : Text.Pattern} :
    Meets (.text s) (.rules [.type [.string], .pattern source pattern]) ↔
      pattern.matchesAll s = true := by
  rw [meets_rules_iff (by simp)]
  simp [meetsRule_type_iff, meetsRule_pattern_iff, hasType]

theorem meets_simpleTypes_iff {s : Text} : Meets (.text s) simpleTypes ↔ s ∈ schemaTypes := by
  have hsimple : Meets (.text s) simpleType ↔ s ∈ schemaTypes := by
    rw [simpleType, meets_rules_iff (by simp), List.forall_mem_singleton, meetsRule_oneOf_iff]
    exact List.Perm.mem_iff (by decide)
  constructor
  · intro h
    obtain ⟨d, hmem, hmeets⟩ := exists_meets_of_anyOf (by simp) h
    rcases List.mem_pair.mp hmem with rfl | rfl
    · exact hsimple.mp hmeets
    · rw [meets_rules_iff (by simp), List.forall_mem_cons, meetsRule_type_iff] at hmeets
      simp [hasType, isList, Value.untied] at hmeets
  · intro h
    exact meets_anyOf_of_first (by simp) (hsimple.mpr h)

/-! Lists and maps. -/

theorem meets_stringArray_iff {texts : List Text} :
    Meets (.list (texts.map .text)) stringArray ↔ texts.Nodup := by
  rw [stringArray, meets_rules_iff (by simp)]
  simp [meetsRule_type_iff, meetsRule_items_list_iff, meetsRule_unique_iff,
    meets_string, hasType, isList]

theorem meets_schemaArray_iff {items : List Value} :
    Meets (.list items) schemaArray ↔ items ≠ [] ∧ ∀ v ∈ items, Meets v .schema := by
  rw [schemaArray, meets_rules_iff (by simp)]
  simp [meetsRule_type_iff, meetsRule_items_list_iff, meetsRule_nonEmpty_iff, hasType, isList]

theorem meets_schemaMap_iff {es : Entries Value} :
    Meets (.ofEntries es) schemaMap ↔ ∀ e ∈ es, Meets e.2 .schema := by
  rw [schemaMap, meets_rules_iff (by simp [Value.ofEntries]), List.forall_mem_cons,
    List.forall_mem_singleton, meetsRule_values_iff]
  simp [meetsRule_type_iff, Value.ofEntries, hasType, Value.isMap]

theorem meets_schema_bool (b : Bool) : Meets (.bool b) .schema := by
  rw [meets_schema_iff (by simp)]
  intro r hr
  rcases rule_of_mem_schemaRules hr with rfl | ⟨named, rfl⟩
  · exact meetsRule_type_iff.mpr rfl
  · simp [MeetsRule, ruleFindings, judgeParts, together_eq_ok_nil_iff]

end TerseSchema.MetaSchema
