import TerseSchema.Json.Plain
import TerseSchema.Schema.Document
import TerseSchema.Proofs.Entries
import TerseSchema.Proofs.Outcome
import TerseSchema.Proofs.Value.Reordering
/-!
# Plain values of reordered values

The plain value of a value is made part by part. A value and a reordering of it have plain values
that are equal up to the order of entries, or none has one, as long as only maps are reordered in
which no two keys become the same text.
-/

namespace TerseSchema.Json

variable {around : List Nat} {x : Value}

/-! ## Parts -/

def PlainEntry (around : List Nat) (entry : Value × Value) (plain : Text × Value) : Prop :=
  ∃ key, keyText entry.1 = .ok key ∧ key.paired = plain.1 ∧
    plainWithin around entry.2 = .ok plain.2

theorem plainItems_eq_ok_iff {items others : List Value} :
    plainItems around items = .ok others ↔
      List.Forall₂ (fun v w => plainWithin around v = .ok w) items others := by
  induction items generalizing others with
  | nil => simp [plainItems, eq_comm]
  | cons v rest ih =>
      simp only [plainItems, bind_eq_ok_iff, List.forall₂_cons_left_iff, ih, pure, Except.pure,
        Except.ok.injEq, @eq_comm _ _ others, exists_and_left]

theorem plainEntries_eq_ok_iff {entries : List (Value × Value)} {es : Entries Value} :
    plainEntries around entries = .ok es ↔ List.Forall₂ (PlainEntry around) entries es := by
  induction entries generalizing es with
  | nil => simp [plainEntries, eq_comm]
  | cons e rest ih =>
      obtain ⟨k, v⟩ := e
      simp only [plainEntries, bind_eq_ok_iff, List.forall₂_cons_left_iff, ih, pure, Except.pure,
        Except.ok.injEq, PlainEntry]
      constructor
      · rintro ⟨key, hkey, w, hw, after, hafter, rfl⟩
        exact ⟨(key.paired, w), after, ⟨key, hkey, rfl, hw⟩, hafter, rfl⟩
      · rintro ⟨⟨_, w⟩, after, ⟨key, hkey, rfl, hw⟩, hafter, rfl⟩
        exact ⟨key, hkey, w, hw, after, hafter, rfl⟩

theorem plainWithin_list_eq_ok_iff {items : List Value} :
    plainWithin around (.list items) = .ok x ↔
      ∃ others, List.Forall₂ (fun v w => plainWithin around v = .ok w) items others ∧
        x = .list others := by
  simp only [plainWithin, bind_eq_ok_iff, plainItems_eq_ok_iff, pure, Except.pure,
    Except.ok.injEq, @eq_comm _ _ x]

theorem plainWithin_tuple (items : List Value) :
    plainWithin around (.tuple items) = plainWithin around (.list items) := rfl

theorem plainWithin_map_eq_ok_iff {entries : List (Value × Value)} :
    plainWithin around (.map entries) = .ok x ↔
      ∃ es, List.Forall₂ (PlainEntry around) entries es ∧
      x = .ofEntries (Entries.putAll [] es) := by
  simp only [plainWithin, bind_eq_ok_iff, plainEntries_eq_ok_iff, pure, Except.pure,
    Except.ok.injEq, @eq_comm _ _ x]

/-! ## Failures -/

theorem failure_of_integer {n : Int} {fault : Fault} (h : integer n = .error fault) :
    fault.failure = ⟨.notEncodable fault, []⟩ := by
  rw [integer] at h
  split at h
  · cases h
  · obtain rfl := Except.error.inj h
    rfl

theorem failure_of_keyText {k : Value} {fault : Fault} (h : keyText k = .error fault) :
    fault.failure = ⟨.notEncodable fault, []⟩ := by
  cases k with
  | int n => exact failure_of_integer h
  | _ => cases h <;> rfl

theorem exists_fault_of_plainItems {items : List Value} {fault : Fault}
    (h : plainItems around items = .error fault) :
    ∃ v ∈ items, plainWithin around v = .error fault := by
  induction items with
  | nil => cases h
  | cons v rest ih =>
      simp only [plainItems, bind_eq_error_iff, pure_ne_error, and_false,
        exists_false, or_false] at h
      rcases h with hv | ⟨-, -, hrest⟩
      · exact ⟨v, List.mem_cons_self, hv⟩
      · exact (ih hrest).imp fun _ hw => ⟨List.mem_cons_of_mem v hw.1, hw.2⟩

theorem exists_fault_of_plainEntries {entries : List (Value × Value)} {fault : Fault}
    (h : plainEntries around entries = .error fault) :
    ∃ e ∈ entries, keyText e.1 = .error fault ∨ plainWithin around e.2 = .error fault := by
  induction entries with
  | nil => cases h
  | cons e rest ih =>
      obtain ⟨k, v⟩ := e
      simp only [plainEntries, bind_eq_error_iff, pure_ne_error, and_false, exists_false,
        or_false] at h
      rcases h with hk | ⟨-, -, hv | ⟨-, -, hrest⟩⟩
      · exact ⟨(k, v), List.mem_cons_self, .inl hk⟩
      · exact ⟨(k, v), List.mem_cons_self, .inr hv⟩
      · exact (ih hrest).imp fun _ hf => ⟨List.mem_cons_of_mem _ hf.1, hf.2⟩

/-- A value without a plain value is one that cannot be encoded. -/
theorem failure_of_plainWithin {v : Value} {fault : Fault}
    (h : plainWithin around v = .error fault) : fault.failure = ⟨.notEncodable fault, []⟩ := by
  induction v using Value.byParts generalizing around with
  | list items ih | tuple items ih =>
      simp only [plainWithin, bind_eq_error_iff, pure_ne_error, and_false,
        exists_false, or_false] at h
      obtain ⟨w, hw, hfault⟩ := exists_fault_of_plainItems h
      exact ih w hw hfault
  | map entries ih =>
      simp only [plainWithin, bind_eq_error_iff, pure_ne_error, and_false,
        exists_false, or_false] at h
      obtain ⟨e, he, hkey | hvalue⟩ := exists_fault_of_plainEntries h
      · exact failure_of_keyText hkey
      · exact ih e he hvalue
  | knot label container ih =>
      rw [plainWithin] at h
      split at h
      · obtain rfl := Except.error.inj h
        rfl
      · exact ih h
  | leaf v hleaf =>
      cases v with
      | int n =>
          simp only [plainWithin, bind_eq_error_iff, pure_ne_error, and_false, exists_false,
            or_false] at h
          exact failure_of_integer h
      | float x => cases x <;> cases h
      | list | tuple | map | knot => cases hleaf
      | _ => cases h <;> rfl

/-! ## Distinct keys -/

/-- Whether no two names are one in JSON. -/
abbrev Apart (names : List Text) : Prop := (names.map Text.paired).Nodup

theorem textKeys_perm {keys others : List Value} (hperm : keys.Perm others)
    (h : TextKeys Apart keys) : TextKeys Apart others :=
  ⟨fun k hk => h.1 k (hperm.mem_iff.mpr hk),
    (((hperm.map Value.keyText).map Text.paired).nodup_iff).mp h.2⟩

theorem names_of_plainEntries {entries : List (Value × Value)} {es : Entries Value}
    (htexts : ∀ k ∈ entries.map Prod.fst, k.IsText)
    (h : List.Forall₂ (PlainEntry around) entries es) :
    Entries.names es = ((entries.map Prod.fst).map Value.keyText).map Text.paired := by
  induction h with
  | nil => rfl
  | @cons e f entries es hef _ ih =>
      obtain ⟨k, v⟩ := e
      obtain ⟨key, hkey, hname, -⟩ := hef
      rw [List.map_cons, List.forall_mem_cons] at htexts
      obtain ⟨⟨s, rfl⟩, hrest⟩ := htexts
      obtain rfl := Except.ok.inj hkey
      simp [ih hrest, ← hname, Value.keyText]

/-! ## Shuffles -/

theorem exists_plainWithin_replace {before after : List Value} {v w : Value}
    (hone : ∀ u, plainWithin around v = .ok u →
      ∃ y, plainWithin around w = .ok y ∧ u.Reordered anyKeys y)
    (hplain : plainWithin around (.list (before ++ v :: after)) = .ok x) :
    ∃ y, plainWithin around (.list (before ++ w :: after)) = .ok y ∧ x.Reordered anyKeys y := by
  obtain ⟨items, hitems, rfl⟩ := plainWithin_list_eq_ok_iff.mp hplain
  obtain ⟨others, haligned, hothers⟩ := exists_forall₂_replace
    (S := Value.Reordered anyKeys) (fun _ => .refl) (fun u hu => by
      obtain ⟨y, hy, hreordered⟩ := hone u hu
      exact ⟨y, hreordered, hy⟩) hitems
  exact ⟨_, plainWithin_list_eq_ok_iff.mpr ⟨others, hothers, rfl⟩, Value.reordered_list haligned⟩

/-- A value in a map is replaced, and its plain value along with it. -/
theorem exists_plainWithin_entry {S : Value → Value → Prop} (hrefl : ∀ u, S u u)
    {before after : List (Value × Value)} {k v w : Value}
    (hone : ∀ u, plainWithin around v = .ok u → ∃ y, plainWithin around w = .ok y ∧ S u y)
    (hplain : plainWithin around (.map (before ++ (k, v) :: after)) = .ok x) :
    ∃ es fs, x = .ofEntries es ∧
      plainWithin around (.map (before ++ (k, w) :: after)) = .ok (.ofEntries fs) ∧
      List.Forall₂ (fun e f => e.1 = f.1 ∧ S e.2 f.2) es fs := by
  obtain ⟨es, hes, rfl⟩ := plainWithin_map_eq_ok_iff.mp hplain
  obtain ⟨fs, haligned, hfs⟩ := exists_forall₂_replace
    (S := fun e f : Text × Value => e.1 = f.1 ∧ S e.2 f.2) (z := (k, w))
    (fun e => ⟨rfl, hrefl e.2⟩) (by
      rintro ⟨name, u⟩ ⟨key, hkey, hname, hu⟩
      obtain ⟨y, hy, huy⟩ := hone u hu
      exact ⟨(name, y), ⟨rfl, huy⟩, key, hkey, hname, hy⟩) hes
  exact ⟨_, _, rfl, plainWithin_map_eq_ok_iff.mpr ⟨fs, hfs, rfl⟩,
    Entries.forall₂_putAll .nil haligned⟩

/-- A shuffled value has a plain value if the value has one, and the two are equal up to
the order of entries. -/
theorem exists_plainWithin_of_shuffle {v w : Value} (h : v.Shuffle (TextKeys Apart) w)
    (hplain : plainWithin around v = .ok x) :
    ∃ y, plainWithin around w = .ok y ∧ x.Reordered anyKeys y := by
  induction h generalizing around x with
  | @map entries others hperm hkeys =>
      obtain ⟨es, hes, rfl⟩ := plainWithin_map_eq_ok_iff.mp hplain
      obtain ⟨fs, hfs, hmoved⟩ := List.perm_comp_forall₂ hperm.symm hes
      refine ⟨_, plainWithin_map_eq_ok_iff.mpr ⟨fs, hfs, rfl⟩, .single ?_⟩
      have hnames : (Entries.names ([] ++ es)).Nodup := by
        rw [List.nil_append, names_of_plainEntries hkeys.1 hes]
        exact hkeys.2
      have hnames' : (Entries.names ([] ++ fs)).Nodup :=
        (hmoved.map Prod.fst).nodup_iff.mpr hnames
      rw [Entries.putAll_of_nodup hnames, Entries.putAll_of_nodup hnames']
      exact .map (hmoved.symm.map _) trivial
  | entry _ ih =>
      obtain ⟨es, fs, rfl, hfs, haligned⟩ :=
        exists_plainWithin_entry (fun _ => .refl) (fun _ => ih) hplain
      exact ⟨_, hfs, Value.reordered_ofEntries haligned⟩
  | item _ ih => exact exists_plainWithin_replace (fun _ => ih) hplain
  | component _ ih =>
      rw [plainWithin_tuple] at hplain ⊢
      exact exists_plainWithin_replace (fun _ => ih) hplain
  | inside _ ih =>
      rw [plainWithin] at hplain ⊢
      split at hplain
      · cases hplain
      · next hlabel => exact if_neg hlabel ▸ ih hplain

/-- Two values that are reorderings of each other both have plain values, which are equal up to
the order of entries, or none of them has one. -/
theorem plain_of_reordered {v w : Value} (h : v.Reordered (TextKeys Apart) w) :
    (∃ x y, plain v = .ok x ∧ plain w = .ok y ∧ x.Reordered anyKeys y) ∨
      (∃ e f, plain v = .error e ∧ plain w = .error f) := by
  have hkept : ∀ {v w : Value}, v.Reordered (TextKeys Apart) w → ∀ {x}, plain v = .ok x →
      ∃ y, plain w = .ok y ∧ x.Reordered anyKeys y := by
    intro v w h
    induction h using Relation.ReflTransGen.head_induction_on with
    | refl => exact fun hx => ⟨_, hx, .refl⟩
    | head hstep _ ih =>
        intro x hx
        obtain ⟨y, hy, hxy⟩ := exists_plainWithin_of_shuffle hstep hx
        obtain ⟨z, hz, hyz⟩ := ih hy
        exact ⟨z, hz, hxy.trans hyz⟩
  have hback : w.Reordered (TextKeys Apart) v :=
    Value.reordered_symm (fun _ _ => textKeys_perm) h
  cases hv : plain v with
  | ok x =>
      obtain ⟨y, hy, hxy⟩ := hkept h hv
      exact .inl ⟨x, y, rfl, hy, hxy⟩
  | error e =>
      cases hw : plain w with
      | ok y =>
          obtain ⟨x, hx, -⟩ := hkept hback hw
          rw [hv] at hx
          cases hx
      | error f => exact .inr ⟨e, f, rfl, rfl⟩

end TerseSchema.Json
