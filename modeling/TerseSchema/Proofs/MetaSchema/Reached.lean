import TerseSchema.Proofs.Json.Fixed
import TerseSchema.Proofs.MetaSchema.Meeting
import TerseSchema.Proofs.Outcome
/-!
# Verdicts that are reached

On what JSON text denotes, a verdict is reached whatever is demanded: it has an end, and every
message against it can be written. So it meets one of several demands as soon as it meets any of
them, and two such values that meet the same rules meet the same demands.
-/

namespace TerseSchema.MetaSchema

open TerseSchema Json

variable {v w : Value} {parts : JudgedParts}

/-- Induction over the alternatives in a demand. What rules demand of the parts of
a value is left alone. -/
@[elab_as_elim]
theorem Demand.byAlternatives {P : Demand → Prop} (schema : P .schema)
    (rules : ∀ rules, P (.rules rules))
    (anyOf : ∀ demands, (∀ d ∈ demands, P d) → P (.anyOf demands)) (anything : P .anything) :
    ∀ d, P d
  | .schema => schema
  | .rules list => rules list
  | .anyOf demands => anyOf demands fun d _ => byAlternatives schema rules anyOf anything d
  | .anything => anything
termination_by d => sizeOf d

/-! ## Findings -/

abbrev Findings.Reached (findings : Findings) : Prop := ∃ found, findings = .ok found

theorem reached_together {findings : List Findings} (h : ∀ f ∈ findings, f.Reached) :
    (together findings).Reached := by
  obtain ⟨found, hfound⟩ := exists_mapM_eq_ok (f := id) h
  refine ⟨found.flatten, ?_⟩
  rw [together, hfound]
  rfl

theorem reached_under {findings : Findings} (step : Value) (h : findings.Reached) :
    (findings.under step).Reached := by
  obtain ⟨found, rfl⟩ := h
  exact ⟨_, rfl⟩

theorem reached_violation (hv : v.isWritable = true) (keyword : String) (words : Text) :
    (violation keyword v words).Reached := ⟨_, if_pos hv⟩

/-- A rule comes to its end on a value that can be written, if all that it may
ask of the parts does. -/
theorem reached_rule (hv : v.isWritable = true)
    (hitems : ∀ verdict ∈ parts.items, ∀ d, (verdict d).Reached)
    (hentries : ∀ e ∈ parts.entries, ∀ d, (e.keyVerdict d).Reached ∧ (e.valueVerdict d).Reached)
    (r : Rule) : (ruleFindings v parts r).Reached := by
  have hnone : Findings.Reached (.ok []) := ⟨[], rfl⟩
  cases r with
  | properties named =>
      refine reached_together (List.forall_mem_map.mpr fun ⟨name, d⟩ _ => ?_)
      simp only
      split
      · next e hfound =>
          exact reached_under _ (hentries e (List.mem_of_find?_eq_some hfound) d).2
      · exact hnone
  | values d =>
      exact reached_together (List.forall_mem_map.mpr fun e he =>
        reached_under _ (hentries e he d).2)
  | names d => exact reached_together (List.forall_mem_map.mpr fun e he => (hentries e he d).1)
  | items d =>
      refine reached_together (List.forall_mem_map.mpr fun ⟨verdict, position⟩ hmem => ?_)
      exact reached_under _ (hitems verdict (List.fst_mem_of_mem_zipIdx hmem) d)
  | _ =>
      simp only [ruleFindings]
      repeat' split
      all_goals first | exact hnone | exact reached_violation hv _ _

/-- If each of several demands is decided, the first that is met is found. -/
theorem exists_anyMet_eq_ok {demands : List Demand}
    (h : ∀ d ∈ demands, (demandFindings v parts d).Reached) :
    ∃ met, anyMet v parts demands = .ok met ∧
      (met = true ↔ ∃ d ∈ demands, demandFindings v parts d = .ok []) := by
  induction demands with
  | nil => exact ⟨false, rfl, by simp⟩
  | cons d rest ih =>
      rw [List.forall_mem_cons] at h
      obtain ⟨⟨found, hfound⟩, hrest⟩ := h
      simp only [anyMet, hfound, bind, Except.bind, List.exists_mem_cons_iff]
      cases found with
      | nil => exact ⟨true, rfl, by simp⟩
      | cons violation more =>
          obtain ⟨met, hmet, hiff⟩ := ih hrest
          exact ⟨met, hmet, by simpa using hiff⟩

theorem reached_demand (hv : v.isWritable = true)
    (hrules : ∀ r, (ruleFindings v parts r).Reached) (d : Demand) :
    (demandFindings v parts d).Reached := by
  have hall : ∀ rules, (rulesFindings v parts rules).Reached := fun rules =>
    reached_together (List.forall_mem_map.mpr fun r _ => hrules r)
  induction d using Demand.byAlternatives with
  | schema => exact hall schemaRules
  | rules rules => exact hall rules
  | anyOf demands ih =>
      obtain ⟨met, hmet, -⟩ := exists_anyMet_eq_ok ih
      simp only [demandFindings, hmet, bind, Except.bind]
      cases met
      · exact reached_violation hv _ _
      · exact ⟨[], rfl⟩
  | anything => exact ⟨[], rfl⟩

/-! ## What JSON text denotes -/

theorem areWritable_iff {items : List Value} :
    areWritable items = true ↔ ∀ v ∈ items, v.isWritable = true := by
  induction items with
  | nil => simp [areWritable]
  | cons v rest ih => rw [areWritable, Bool.and_eq_true, ih, List.forall_mem_cons]

theorem entriesWritable_iff {entries : List (Value × Value)} : entriesWritable entries = true ↔
    ∀ e ∈ entries, e.1.isWritable = true ∧ e.2.isWritable = true := by
  induction entries with
  | nil => simp [entriesWritable]
  | cons e rest ih =>
    rw [entriesWritable, Bool.and_eq_true, Bool.and_eq_true, ih, List.forall_mem_cons]

theorem isWritable_of_isDenoted (h : IsDenoted v) : v.isWritable = true := by
  induction h with
  | int hwritable => exact hwritable
  | list _ ih => exact areWritable_iff.mpr ih
  | map _ _ _ ih =>
    exact entriesWritable_iff.mpr (List.forall_mem_map.mpr fun e he => ⟨rfl, ih e he⟩)
  | _ => rfl

theorem not_cut_of_isDenoted (h : IsDenoted v) (label : Nat) (container : Container) :
    v ≠ .cut label container := by
  rintro rfl
  cases h

theorem reached_judge_of_parts (h : IsDenoted v)
    (hitems : ∀ verdict ∈ (judgeParts v).items, ∀ d, (verdict d).Reached)
    (hentries : ∀ e ∈ (judgeParts v).entries, ∀ d, (e.keyVerdict d).Reached ∧
      (e.valueVerdict d).Reached)
    (d : Demand) : (judge v d).Reached := by
  have hwritable := isWritable_of_isDenoted h
  rw [judge_of_not_cut (not_cut_of_isDenoted h)]
  exact reached_demand hwritable (reached_rule hwritable hitems hentries) d

theorem reached_judge_of_no_parts (h : IsDenoted v) (hparts : judgeParts v = {}) (d : Demand) :
    (judge v d).Reached :=
  reached_judge_of_parts h (by simp [hparts]) (by simp [hparts]) d

/-- On what JSON text denotes, a verdict is reached whatever is demanded. -/
theorem reached_judge (h : IsDenoted v) (d : Demand) : (judge v d).Reached := by
  induction h generalizing d with
  | @list items h ih =>
      refine reached_judge_of_parts (.list h) ?_ (by simp [judgeParts]) d
      rw [judgeParts, judgeItems_eq]
      exact List.forall_mem_map.mpr ih
  | @map es hnames hpaired h ih =>
      refine reached_judge_of_parts (.map hnames hpaired h)
        (by simp [Value.ofEntries, judgeParts]) ?_ d
      rw [Value.ofEntries, judgeParts, judgeEntries_eq, List.forall_mem_map, List.forall_mem_map]
      intro e he d
      exact ⟨reached_judge_of_no_parts (.text (hpaired e he)) rfl d, ih e he d⟩
  | null => exact reached_judge_of_no_parts .null rfl d
  | bool b => exact reached_judge_of_no_parts (.bool b) rfl d
  | int h => exact reached_judge_of_no_parts (.int h) rfl d
  | float h => exact reached_judge_of_no_parts (.float h) rfl d
  | text h => exact reached_judge_of_no_parts (.text h) rfl d

theorem meets_anyOf_iff (h : IsDenoted v) {demands : List Demand} :
    Meets v (.anyOf demands) ↔ ∃ d ∈ demands, Meets v d := by
  refine ⟨exists_meets_of_anyOf (not_cut_of_isDenoted h), fun hmet => ?_⟩
  have hreached : ∀ d, (demandFindings v (judgeParts v) d).Reached := by
    intro d
    rw [← judge_of_not_cut (not_cut_of_isDenoted h)]
    exact reached_judge h d
  simp only [Meets, judge_of_not_cut (not_cut_of_isDenoted h)] at hmet ⊢
  obtain ⟨met, hany, hiff⟩ := @exists_anyMet_eq_ok v (judgeParts v) demands fun d _ => hreached d
  obtain rfl := hiff.mpr hmet
  rw [demandFindings, hany]
  rfl

/-- Values that JSON text denotes meet the same demands if they meet the same rules. -/
theorem meets_iff_of_rules (hv : IsDenoted v) (hw : IsDenoted w)
    (h : ∀ r, MeetsRule v r ↔ MeetsRule w r) (d : Demand) : Meets v d ↔ Meets w d := by
  have hvcut := not_cut_of_isDenoted hv
  have hwcut := not_cut_of_isDenoted hw
  induction d using Demand.byAlternatives with
  | schema => rw [meets_schema_iff hvcut, meets_schema_iff hwcut, forall₂_congr fun r _ => h r]
  | rules rules =>
    rw [meets_rules_iff hvcut, meets_rules_iff hwcut, forall₂_congr fun r _ => h r]
  | anyOf demands ih =>
      rw [meets_anyOf_iff hv, meets_anyOf_iff hw]
      exact exists_congr fun d => and_congr_right (ih d)
  | anything => exact iff_of_true (meets_anything v) (meets_anything w)

end TerseSchema.MetaSchema
