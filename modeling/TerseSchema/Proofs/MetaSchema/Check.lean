import TerseSchema.Proofs.MetaSchema.Conformance
import TerseSchema.Proofs.Routing
/-!
# Checks of schemas

Nothing is found against what shorthand expands to. Against what a document is read as, all that
can be found is that a node does not conform.
-/

namespace TerseSchema.MetaSchema

open TerseSchema

theorem check_eq_ok_nil_iff {document : Value} :
    check document = .ok [] ↔ Meets document .schema := by
  rw [check, Meets]
  cases judge document .schema with
  | error limit => simp [bind, Except.bind]
  | ok found =>
      simp only [bind, Except.bind, Except.ok.injEq]
      split
      · have hnil : found.mergeSort (fun a b => pathBefore a.steps b.steps) = [] ↔
            found = [] := by
          rw [← List.length_eq_zero_iff, List.length_mergeSort, List.length_eq_zero_iff]
        simp [pure, Except.pure, hnil]
      · next hpath =>
          have hne : found ≠ [] := by
            rintro rfl
            simp at hpath
          simp [hne, throw, throwThe, MonadExceptOf.throw]

theorem isSchema_iff {document : Value} :
    isSchema document = true ↔ check document = .ok [] := by
  rw [isSchema]
  cases check document <;> simp

/-! ## Expanded schemas -/

theorem conforms_of_isOutput {s : Schema} (h : Shorthand.IsOutput s) : Conforms s where
  type := h.type
  enum := by
    intro v hv
    obtain ⟨items, rfl⟩ := h.enum v hv
    exact .inl (.inl ⟨items, rfl⟩)
  required := h.required
  extras := by
    intro name v hmem
    rw [h.extras] at hmem
    cases hmem

/-- The document of an expanded schema is a schema, without any violation. -/
theorem check_document_of_expand {v : Value} {s : Schema} (h : Shorthand.expand v = .ok s) :
    check s.document = .ok [] ∧ isSchema s.document = true := by
  have houtput := Shorthand.everywhere_isOutput_expand h
  have hwellFormed := houtput.imp fun _ ht => ht.wellFormed
  have hcheck : check s.document = .ok [] := by
    rw [check_eq_ok_nil_iff, meets_document_iff_everywhere hwellFormed]
    exact houtput.imp fun _ ht => conforms_of_isOutput ht
  exact ⟨hcheck, isSchema_iff.mpr hcheck⟩

def optionalKind : Value :=
  .map [(.text "kind?(enum, the kind)", .list [.text "a", .int 1]),
    (.text "rest(*)", .text "any")]

def optionalKindSchema : Schema :=
  { type := "object"
    properties := some [("kind",
      { description := "the kind", enum := some (.list [.text "a", .int 1, .null]) })]
    additional := some (.schema {}) }

theorem check_optionalKind : Shorthand.expand optionalKind = .ok optionalKindSchema ∧
    check optionalKindSchema.document = .ok [] := by
  have hexpand : Shorthand.expand optionalKind = .ok optionalKindSchema := rfl
  exact ⟨hexpand, (check_document_of_expand hexpand).1⟩

/-! ## Schemas read from documents -/

/-- The document of a schema read from plain data is a schema exactly when all nodes conform. -/
theorem isSchema_document_iff {v : Value} {s : Schema} (hplain : v.isPlain = true)
    (h : Schema.ofDocument v = .ok s) :
    isSchema s.document = true ↔ ∀ t, s.Node t → Conforms t := by
  rw [isSchema_iff, check_eq_ok_nil_iff,
    meets_document_iff_everywhere (everywhere_wellFormed_ofDocument hplain h)]
  rfl

def trueLimit : Value :=
  .map [(.text "properties", .map [(.text "size", .map [(.text "maximum", .bool true)])])]

def trueLimitSchema : Schema :=
  { properties := some [("size", { extras := [("maximum", .bool true)] })] }

/-- A truth value is no number. -/
theorem not_isSchema_trueLimit : Schema.ofDocument trueLimit = .ok trueLimitSchema ∧
    isSchema trueLimitSchema.document = false := by
  have hplain : trueLimit.isPlain = true := by decide
  have hread : Schema.ofDocument trueLimit = .ok trueLimitSchema := rfl
  refine ⟨hread, Bool.eq_false_iff.mpr fun hschema => ?_⟩
  have hnode : trueLimitSchema.Node { extras := [("maximum", .bool true)] } :=
    .single (.property rfl List.mem_cons_self)
  have hconforms := (isSchema_document_iff hplain hread).mp hschema _ hnode
  have hnumber := (hconforms.extras "maximum" (.bool true) List.mem_cons_self).number (by decide)
  simp [IsNumber] at hnumber

end TerseSchema.MetaSchema
