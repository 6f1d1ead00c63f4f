import TerseSchema.MetaSchema.Check
import TerseSchema.Proofs.Entries
import TerseSchema.Proofs.MetaSchema.Uniqueness
/-!
# Meeting a demand

A value meets a demand when the check finds nothing against it. What this comes to is told rule
by rule: for a map by its entries, for a list by its items.
-/

namespace TerseSchema.MetaSchema

open TerseSchema

/-! ## Findings -/

theorem together_eq_ok_nil_iff {findings : List Findings} :
    together findings = .ok [] ↔ ∀ f ∈ findings, f = .ok [] := by
  induction findings with
  | nil => simp [together, pure, Except.pure, bind, Except.bind]
  | cons f rest ih =>
      rw [List.forall_mem_cons, ← ih]
      simp only [together, List.mapM_cons, id_eq]
      cases f with
      | error limit => simp [bind, Except.bind]
      | ok found =>
          cases rest.mapM id with
          | error limit => simp [bind, Except.bind]
          | ok more => simp [bind, Except.bind, pure, Except.pure]

theorem under_eq_ok_nil_iff {step : Value} {findings : Findings} :
    Findings.under step findings = .ok [] ↔ findings = .ok [] := by
  cases findings with
  | error limit => simp [Findings.under, Except.map]
  | ok found => simp [Findings.under, Except.map]

theorem violation_ne_ok_nil (keyword : String) (v : Value) (words : Text) :
    violation keyword v words ≠ .ok [] := by
  rw [violation]
  split <;> simp

/-! ## Demands -/

/-- Nothing is found against a value. -/
def Meets (v : Value) (d : Demand) : Prop := judge v d = .ok []

def MeetsRule (v : Value) (r : Rule) : Prop := ruleFindings v (judgeParts v) r = .ok []

theorem judge_of_not_cut {v : Value} (hv : ∀ label container, v ≠ .cut label container) :
    judge v = demandFindings v (judgeParts v) := by
  cases v with
  | cut label container => exact absurd rfl (hv label container)
  | _ => rfl

theorem meets_anything (v : Value) : Meets v .anything := by
  cases v <;> rfl

theorem rulesFindings_eq_ok_nil_iff {v : Value} {rules : List Rule} :
    rulesFindings v (judgeParts v) rules = .ok [] ↔ ∀ r ∈ rules, MeetsRule v r := by
  rw [rulesFindings, together_eq_ok_nil_iff, List.forall_mem_map]
  rfl

theorem meets_rules_iff {v : Value} {rules : List Rule}
    (hv : ∀ label container, v ≠ .cut label container) :
    Meets v (.rules rules) ↔ ∀ r ∈ rules, MeetsRule v r := by
  rw [Meets, judge_of_not_cut hv, ← rulesFindings_eq_ok_nil_iff]
  rfl

theorem meets_schema_iff {v : Value} (hv : ∀ label container, v ≠ .cut label container) :
    Meets v .schema ↔ ∀ r ∈ schemaRules, MeetsRule v r := by
  rw [Meets, judge_of_not_cut hv, ← rulesFindings_eq_ok_nil_iff]
  rfl

/-- One of several demands is enough, if it is the first. -/
theorem meets_anyOf_of_first {v : Value} {d : Demand} {rest : List Demand}
    (hv : ∀ label container, v ≠ .cut label container) (h : Meets v d) :
    Meets v (.anyOf (d :: rest)) := by
  rw [Meets, judge_of_not_cut hv] at h ⊢
  simp [demandFindings, anyMet, h, bind, Except.bind, pure, Except.pure]

theorem exists_of_anyMet {v : Value} {parts : JudgedParts} {demands : List Demand}
    (h : anyMet v parts demands = .ok true) :
    ∃ d ∈ demands, demandFindings v parts d = .ok [] := by
  induction demands with
  | nil => simp [anyMet] at h
  | cons d rest ih =>
      simp only [anyMet] at h
      cases hd : demandFindings v parts d with
      | error limit => simp [hd, bind, Except.bind] at h
      | ok found =>
          cases found with
          | nil => exact ⟨d, List.mem_cons_self, hd⟩
          | cons violation more =>
              obtain ⟨d, hmem, hmet⟩ := ih (by simpa [hd, bind, Except.bind] using h)
              exact ⟨d, List.mem_cons_of_mem _ hmem, hmet⟩

theorem exists_meets_of_anyOf {v : Value} {demands : List Demand}
    (hv : ∀ label container, v ≠ .cut label container) (h : Meets v (.anyOf demands)) :
    ∃ d ∈ demands, Meets v d := by
  simp only [Meets, judge_of_not_cut hv, demandFindings] at h ⊢
  cases hany : anyMet v (judgeParts v) demands with
  | error limit => simp [hany, bind, Except.bind] at h
  | ok met =>
      cases met with
      | true => exact exists_of_anyMet hany
      | false =>
        exact absurd (by simpa [hany, bind, Except.bind] using h) (violation_ne_ok_nil _ _ _)

/-! ## Parts -/

theorem judgeItems_eq (items : List Value) : judgeItems items = items.map judge := by
  induction items with
  | nil => rfl
  | cons v rest ih =>
      rw [List.map_cons, ← ih]
      rfl

theorem judgeEntries_eq (entries : List (Value × Value)) :
    judgeEntries entries = entries.map fun e => ⟨e.1, judge e.1, judge e.2⟩ := by
  induction entries with
  | nil => rfl
  | cons e rest ih =>
      rw [List.map_cons, ← ih]
      rfl

/-! ## Rules -/

theorem meetsRule_type_iff {v : Value} {names : List TypeName} :
    MeetsRule v (.type names) ↔ names.any (hasType v) = true := by
  simp only [MeetsRule, ruleFindings]
  split
  · next h => simp [h]
  · next h => simp [h, violation_ne_ok_nil]

theorem meetsRule_items_iff {v : Value} {d : Demand} :
    MeetsRule v (.items d) ↔ ∀ verdict ∈ (judgeParts v).items, verdict d = .ok [] := by
  simp only [MeetsRule, ruleFindings, together_eq_ok_nil_iff, List.forall_mem_map,
    under_eq_ok_nil_iff]
  constructor
  · intro h verdict hmem
    obtain ⟨position, hposition, rfl⟩ := List.mem_iff_getElem.mp hmem
    exact h (_, position) (by simp [List.mem_zipIdx_iff_getElem?, hposition])
  · rintro h ⟨verdict, position⟩ hmem
    exact h verdict (List.fst_mem_of_mem_zipIdx hmem)

theorem meetsRule_items_list_iff {items : List Value} {d : Demand} :
    MeetsRule (.list items) (.items d) ↔ ∀ v ∈ items, Meets v d := by
  rw [meetsRule_items_iff, judgeParts, judgeItems_eq, List.forall_mem_map]
  rfl

theorem meetsRule_values_iff {es : Entries Value} {d : Demand} :
    MeetsRule (.ofEntries es) (.values d) ↔ ∀ e ∈ es, Meets e.2 d := by
  simp only [MeetsRule, ruleFindings, Value.ofEntries, judgeParts, judgeEntries_eq,
    together_eq_ok_nil_iff, List.forall_mem_map, under_eq_ok_nil_iff]
  rfl

theorem meetsRule_names_iff {es : Entries Value} {d : Demand} :
    MeetsRule (.ofEntries es) (.names d) ↔ ∀ name ∈ Entries.names es, Meets (.text name) d := by
  simp only [MeetsRule, ruleFindings, Value.ofEntries, judgeParts, judgeEntries_eq,
    together_eq_ok_nil_iff, List.forall_mem_map, Entries.names]
  rfl

theorem find?_entry (es : Entries Value) (name : Text) :
    (judgeParts (.ofEntries es)).entries.find? (fun e => e.key.same (.text name)) =
      (es.get? name).map fun v => ⟨.text name, judge (.text name), judge v⟩ := by
  simp only [Value.ofEntries, judgeParts, judgeEntries_eq, List.map_map]
  induction es with
  | nil => rfl
  | cons e rest ih =>
      obtain ⟨k, v⟩ := e
      by_cases hk : k = name
      · simp [Entries.get?, Value.same, hk]
      · simpa [Entries.get?, Value.same, hk] using ih

theorem meetsRule_properties_iff {es : Entries Value} (hnames : (Entries.names es).Nodup)
    {named : List (Text × Demand)} :
    MeetsRule (.ofEntries es) (.properties named) ↔
      ∀ e ∈ named, ∀ v, (e.1, v) ∈ es → Meets v e.2 := by
  simp only [MeetsRule, ruleFindings, together_eq_ok_nil_iff, List.forall_mem_map, find?_entry]
  refine forall₂_congr fun e _ => ?_
  cases hget : es.get? e.1 with
  | none =>
      have hnone : ∀ v, (e.1, v) ∉ es := by
        intro v hmem
        rw [(Entries.get?_eq_some_iff hnames).mpr hmem] at hget
        cases hget
      simp [hnone]
  | some v =>
      have hsome : ∀ w, (e.1, w) ∈ es ↔ w = v := by
        intro w
        rw [← Entries.get?_eq_some_iff hnames, hget, Option.some.injEq]
        exact eq_comm
      simp only [Option.map_some, under_eq_ok_nil_iff, hsome, forall_eq]
      rfl

theorem meetsRule_nonEmpty_iff {items : List Value} :
    MeetsRule (.list items) .nonEmpty ↔ items ≠ [] := by
  cases items with
  | nil => simp [MeetsRule, ruleFindings, violation_ne_ok_nil]
  | cons v rest => simp [MeetsRule, ruleFindings]

theorem meetsRule_unique_iff {texts : List Text} :
    MeetsRule (.list (texts.map .text)) .unique ↔ texts.Nodup := by
  rw [← allDifferent_texts]
  simp only [MeetsRule, ruleFindings, Value.untied_list]
  split
  · next h => simp [h]
  · next h => simp [h, violation_ne_ok_nil]

theorem meetsRule_oneOf_iff {s : Text} {texts : List Text} :
    MeetsRule (.text s) (.oneOf texts) ↔ s ∈ texts := by
  simp only [MeetsRule, ruleFindings, jsonEqual_text]
  split
  · next h => simpa using h
  · next h => simpa [violation_ne_ok_nil] using h

theorem not_meetsRule_oneOf {v : Value} (hv : v.isContainer = true) (texts : List Text) :
    ¬MeetsRule v (.oneOf texts) := by
  simp [MeetsRule, ruleFindings, jsonEqual_text_of_container _ hv, violation_ne_ok_nil]

theorem meetsRule_pattern_iff {s source : Text} {pattern : Text.Pattern} :
    MeetsRule (.text s) (.pattern source pattern) ↔ pattern.matchesAll s = true := by
  simp only [MeetsRule, ruleFindings]
  split
  · next h => simp [h]
  · next h => simp [h, violation_ne_ok_nil]

theorem meetsRule_notNegative_iff {v : Value} :
    MeetsRule v .notNegative ↔ isBelowZero v = false := by
  simp only [MeetsRule, ruleFindings]
  split
  · next h => simp [h, violation_ne_ok_nil]
  · next h => simpa using h

theorem meetsRule_positive_iff {v : Value} : MeetsRule v .positive ↔ isAtMostZero v = false := by
  simp only [MeetsRule, ruleFindings]
  split
  · next h => simp [h, violation_ne_ok_nil]
  · next h => simpa using h

end TerseSchema.MetaSchema
