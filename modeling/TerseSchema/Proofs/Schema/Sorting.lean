import TerseSchema.Proofs.Schema.Settled
/-!
# What sorting does to a document

A document of a schema and that of the sorted schema differ in the order of required names
alone, and so do the values that their JSON texts denote. So a schema can be encoded exactly
when it can be once it is sorted.
-/

namespace TerseSchema

/-! ## Lists of names -/

namespace Value

/-- A list of names is put into another order, in a value of a map at whatever depth. -/
inductive Resort : Value → Value → Prop where
  | names {names others : List Text} (hperm : names.Perm others) :
      Resort (.list (names.map .text)) (.list (others.map .text))
  | entry {before after : Entries Value} {name : Text} {v w : Value} (h : Resort v w) :
      Resort (.ofEntries (before ++ (name, v) :: after))
        (.ofEntries (before ++ (name, w) :: after))

abbrev Resorted : Value → Value → Prop := Relation.ReflTransGen Resort

variable {v w : Value}

theorem Resort.symm (h : v.Resort w) : w.Resort v := by
  induction h with
  | names hperm => exact .names hperm.symm
  | entry _ ih => exact .entry ih

theorem resorted_symm (h : v.Resorted w) : w.Resorted v := by
  induction h with
  | refl => exact .refl
  | tail _ hstep ih => exact .head hstep.symm ih

theorem resorted_ofEntries {es fs : Entries Value}
    (h : List.Forall₂ (fun e f => e.1 = f.1 ∧ e.2.Resorted f.2) es fs) :
    (Value.ofEntries es).Resorted (.ofEntries fs) := by
  refine reflTransGen_of_forall₂ Value.ofEntries ?_ h
  rintro before after ⟨name, x⟩ ⟨_, y⟩ ⟨rfl, hxy⟩
  have hentry : ∀ u w, u.Resort w →
      (Value.ofEntries (before ++ (name, u) :: after)).Resort
        (.ofEntries (before ++ (name, w) :: after)) :=
    fun _ _ => .entry
  exact hxy.lift (fun u => Value.ofEntries (before ++ (name, u) :: after)) hentry

end Value

/-! ## Documents -/

namespace Schema

/-- Sorting puts the lists of required names into another order, and does
nothing else to a document. -/
theorem document_sorted (s : Schema) : s.document.Resorted s.sorted.document := by
  induction s using byChildren with
  | step s ih =>
      have hperm : s.required.Perm (sortNames s.required) := (perm_sortNames s.required).symm
      have hsame : ∀ x : Option Value, Option.Rel Value.Resorted x x :=
        optionRel_refl fun _ => .refl
      have hproperties : Option.Rel Value.Resorted
          (s.properties.map fun ps => .ofEntries (propertyDocuments ps))
          ((s.properties.map sortedProperties).map fun ps =>
            .ofEntries (propertyDocuments ps)) := by
        cases hps : s.properties with
        | none => exact .none
        | some ps =>
            rw [Option.map_some, Option.map_some, Option.map_some, propertyDocuments_eq,
              propertyDocuments_eq, sortedProperties_eq]
            refine .some (Value.resorted_ofEntries ?_)
            rw [List.forall₂_map_left_iff, List.forall₂_map_right_iff,
              List.forall₂_map_right_iff]
            exact List.forall₂_same.mpr fun e he => ⟨rfl, ih e.2 (.property hps he)⟩
      have hitems : Option.Rel Value.Resorted (s.items.map document)
          ((s.items.map Schema.sorted).map document) := by
        cases hitem : s.items with
        | none => exact .none
        | some t => exact .some (ih t (.items hitem))
      rw [document_eq_putAll, document_eq_putAll s.sorted, sorted_eq]
      refine Value.resorted_ofEntries (Entries.forall₂_putAll ?_ ?_)
      · exact forall₂_ownFields (fun _ => .refl) rfl rfl hperm.isEmpty_eq
          (.single (.names hperm)) (hsame _)
          hproperties hitems (hsame _)
      · exact List.forall₂_same.mpr fun e _ => ⟨rfl, .refl⟩

end Schema

/-! ## Plain values -/

namespace Json

open Value

variable {v w x : Value}

theorem exists_plain_of_resort (h : v.Resort w) (hplain : plain v = .ok x) :
    ∃ y, plain w = .ok y ∧ x.Resorted y := by
  induction h generalizing x with
  | @names names others hperm =>
      obtain ⟨y, hy⟩ := encodable_texts others
      refine ⟨y, hy, .single ?_⟩
      rw [plain_texts hplain, plain_texts hy]
      exact .names (hperm.map Text.paired)
  | entry _ ih =>
      simp only [plain, ofEntries, List.map_append, List.map_cons] at hplain ⊢
      obtain ⟨es, fs, rfl, hfs, haligned⟩ :=
        exists_plainWithin_entry (fun _ => .refl) (fun _ => ih) hplain
      exact ⟨_, hfs, resorted_ofEntries haligned⟩

theorem exists_plain_of_resorted (h : v.Resorted w) (hplain : plain v = .ok x) :
    ∃ y, plain w = .ok y ∧ x.Resorted y := by
  induction h with
  | refl => exact ⟨x, hplain, .refl⟩
  | tail _ hstep ih =>
      obtain ⟨y, hy, hxy⟩ := ih
      obtain ⟨z, hz, hyz⟩ := exists_plain_of_resort hstep hy
      exact ⟨z, hz, hxy.trans hyz⟩

end Json

/-- Sorting makes no difference to whether there is JSON text of a schema. -/
theorem Schema.encodable_sorted_iff {s : Schema} :
    Json.Encodable s.sorted.document ↔ Json.Encodable s.document := by
  have hkept : ∀ {v w : Value}, v.Resorted w → Json.Encodable v → Json.Encodable w := by
    rintro v w hvw ⟨x, hx⟩
    obtain ⟨y, hy, -⟩ := Json.exists_plain_of_resorted hvw hx
    exact ⟨y, hy⟩
  exact ⟨hkept (Value.resorted_symm s.document_sorted), hkept s.document_sorted⟩

end TerseSchema
