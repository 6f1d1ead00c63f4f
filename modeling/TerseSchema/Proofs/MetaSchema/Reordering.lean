import TerseSchema.Proofs.MetaSchema.Check
import TerseSchema.Proofs.MetaSchema.Reached
import TerseSchema.Proofs.Schema.Sorting
/-!
# Checks of lists of names in another order

No rule tells apart two lists of the same names, and none looks further into a value than to what
is demanded of its parts. So whatever is demanded, of a document or of a part of it, is met when
lists of names are put into another order, if it was met before.
-/

namespace TerseSchema.MetaSchema

open TerseSchema Json

variable {v w : Value}

/-! ## Rules -/

/-- A list of names meets the same rules in every order. -/
theorem meetsRule_iff_of_perm {names others : List Text} (hperm : names.Perm others) (r : Rule) :
    MeetsRule (.list (names.map .text)) r ↔ MeetsRule (.list (others.map .text)) r := by
  cases r with
  | type kinds =>
      have hkind : hasType (.list (names.map .text)) = hasType (.list (others.map .text)) := by
        funext kind
        cases kind <;> rfl
      rw [meetsRule_type_iff, meetsRule_type_iff, hkind]
  | items d =>
      rw [meetsRule_items_list_iff, meetsRule_items_list_iff, List.forall_mem_map,
        List.forall_mem_map]
      exact forall_congr' fun name => by rw [hperm.mem_iff]
  | nonEmpty =>
      rw [meetsRule_nonEmpty_iff, meetsRule_nonEmpty_iff, ne_eq, ne_eq, List.map_eq_nil_iff,
        List.map_eq_nil_iff, ← List.isEmpty_iff, ← List.isEmpty_iff, hperm.isEmpty_eq]
  | unique => rw [meetsRule_unique_iff, meetsRule_unique_iff, hperm.nodup_iff]
  | oneOf texts =>
    exact iff_of_false (not_meetsRule_oneOf rfl texts) (not_meetsRule_oneOf rfl texts)
  | _ => rfl

/-- A map meets the same rules when a value in it gives way to one that
meets the same demands. -/
theorem meetsRule_iff_of_entry {before after : Entries Value} {name : Text}
    (hnames : (Entries.names (before ++ (name, v) :: after)).Nodup)
    (h : ∀ d, Meets v d ↔ Meets w d) (r : Rule) :
    MeetsRule (.ofEntries (before ++ (name, v) :: after)) r ↔
      MeetsRule (.ofEntries (before ++ (name, w) :: after)) r := by
  have hsame : Entries.names (before ++ (name, w) :: after) =
      Entries.names (before ++ (name, v) :: after) := by
    simp
  cases r with
  | type kinds =>
      have hkind : ∀ es : Entries Value, hasType (.ofEntries es) = hasType (.map []) := by
        intro es
        funext kind
        cases kind <;> rfl
      rw [meetsRule_type_iff, meetsRule_type_iff, hkind, hkind]
  | properties named =>
      rw [meetsRule_properties_iff hnames, meetsRule_properties_iff (hsame ▸ hnames)]
      refine forall₂_congr fun e _ => ?_
      simp [or_imp, forall_and, h]
  | values d =>
      rw [meetsRule_values_iff, meetsRule_values_iff]
      simp only [List.forall_mem_append, List.forall_mem_cons, h]
  | names d => rw [meetsRule_names_iff, meetsRule_names_iff, hsame]
  | oneOf texts =>
    exact iff_of_false (not_meetsRule_oneOf rfl texts) (not_meetsRule_oneOf rfl texts)
  | _ => rfl

/-! ## Values -/

theorem isDenoted_ofEntries_iff {es : Entries Value} : IsDenoted (.ofEntries es) ↔
    (Entries.names es).Nodup ∧ (∀ e ∈ es, e.1.paired = e.1) ∧ ∀ e ∈ es, IsDenoted e.2 := by
  constructor
  · intro h
    generalize hv : Value.ofEntries es = v at h
    cases h with
    | @map fs hnames hpaired h =>
        have hinj : Function.Injective fun e : Text × Value => (Value.text e.1, e.2) := by
          rintro ⟨name, v⟩ ⟨other, w⟩ heq
          simpa using heq
        obtain rfl := hinj.list_map (Value.map.inj hv)
        exact ⟨hnames, hpaired, h⟩
    | _ => cases hv
  · rintro ⟨hnames, hpaired, h⟩
    exact .map hnames hpaired h

theorem isDenoted_of_resort (h : v.Resort w) (hv : IsDenoted v) : IsDenoted w := by
  induction h with
  | names hperm =>
      cases hv with
      | list htexts =>
          refine .list fun v hmem => htexts v ?_
          rwa [(hperm.map Value.text).mem_iff]
  | entry _ ih =>
      rw [isDenoted_ofEntries_iff] at hv ⊢
      simp only [Entries.names_append, Entries.names_cons, List.forall_mem_append,
        List.forall_mem_cons] at hv ⊢
      exact ⟨hv.1, hv.2.1, hv.2.2.1, ih hv.2.2.2.1, hv.2.2.2.2⟩

theorem meets_iff_of_resort (h : v.Resort w) (hv : IsDenoted v) (d : Demand) :
    Meets v d ↔ Meets w d := by
  induction h generalizing d with
  | names hperm =>
      exact meets_iff_of_rules hv (isDenoted_of_resort (.names hperm) hv)
        (meetsRule_iff_of_perm hperm) d
  | entry h ih =>
      obtain ⟨hnames, -, hparts⟩ := isDenoted_ofEntries_iff.mp hv
      have hpart := ih (hparts _ (List.mem_append_right _ List.mem_cons_self))
      exact meets_iff_of_rules hv (isDenoted_of_resort (.entry h) hv)
        (meetsRule_iff_of_entry hnames hpart) d

/-- A document stays a schema, or none, when lists of names in it are put into another order. -/
theorem isSchema_eq_of_resorted (h : v.Resorted w) (hv : IsDenoted v) :
    isSchema v = isSchema w := by
  have hmeets : IsDenoted w ∧ (Meets v .schema ↔ Meets w .schema) := by
    induction h with
    | refl => exact ⟨hv, .rfl⟩
    | tail _ hstep ih =>
        exact ⟨isDenoted_of_resort hstep ih.1,
          ih.2.trans (meets_iff_of_resort hstep ih.1 .schema)⟩
  rw [Bool.eq_iff_iff, isSchema_iff, isSchema_iff, check_eq_ok_nil_iff, check_eq_ok_nil_iff]
  exact hmeets.2

end TerseSchema.MetaSchema
