import TerseSchema.Value.Literal
import TerseSchema.Proofs.Pairing
import TerseSchema.Proofs.Value.Plain
import Mathlib.Data.List.Perm.Basic
/-!
# Reordered values

A shuffle puts the entries of one map of a value, at any depth, into another order, and one value
is a reordering of another when shuffles lead from the one to the other. Shuffles can be kept to
maps with certain keys. What a value is apart from the order of entries stays the same.
-/

namespace TerseSchema

/-- The entries of one map in another order, if its keys are `free`. -/
inductive Value.Shuffle (free : List Value → Prop) : Value → Value → Prop where
  | map {entries others : List (Value × Value)} (hperm : entries.Perm others)
      (hfree : free (entries.map Prod.fst)) : Shuffle free (.map entries) (.map others)
  | entry {before after : List (Value × Value)} {k v w : Value} (h : Shuffle free v w) :
      Shuffle free (.map (before ++ (k, v) :: after)) (.map (before ++ (k, w) :: after))
  | item {before after : List Value} {v w : Value} (h : Shuffle free v w) :
      Shuffle free (.list (before ++ v :: after)) (.list (before ++ w :: after))
  | component {before after : List Value} {v w : Value} (h : Shuffle free v w) :
      Shuffle free (.tuple (before ++ v :: after)) (.tuple (before ++ w :: after))
  | inside {label : Nat} {v w : Value} (h : Shuffle free v w) :
      Shuffle free (.knot label v) (.knot label w)

abbrev Value.Reordered (free : List Value → Prop) : Value → Value → Prop :=
  Relation.ReflTransGen (Value.Shuffle free)

abbrev anyKeys : List Value → Prop := fun _ => True

/-- Keys that are texts, set apart from each other as `apart` tells. -/
def TextKeys (apart : List Text → Prop) (keys : List Value) : Prop :=
  (∀ k ∈ keys, k.IsText) ∧ apart (keys.map Value.keyText)

def Value.TextKeyed (v : Value) : Prop :=
  ∀ entries, v.Reaches (.map entries) → ∀ e ∈ entries, e.1.IsText

namespace Value

variable {free : List Value → Prop} {v w : Value}

/-! ## Shuffles -/

theorem Shuffle.symm (hfree : ∀ keys others, keys.Perm others → free keys → free others)
    (h : v.Shuffle free w) : w.Shuffle free v := by
  induction h with
  | map hperm hkeys => exact .map hperm.symm (hfree _ _ (hperm.map Prod.fst) hkeys)
  | entry _ ih => exact .entry ih
  | item _ ih => exact .item ih
  | component _ ih => exact .component ih
  | inside _ ih => exact .inside ih

theorem reordered_symm (hfree : ∀ keys others, keys.Perm others → free keys → free others)
    (h : v.Reordered free w) : w.Reordered free v := by
  have : Std.Symm (Shuffle free) := ⟨fun _ _ hstep => hstep.symm hfree⟩
  exact Std.Symm.symm _ _ h

theorem Shuffle.mono {wider : List Value → Prop} (hfree : ∀ keys, free keys → wider keys)
    (h : v.Shuffle free w) : v.Shuffle wider w := by
  induction h with
  | map hperm hkeys => exact .map hperm (hfree _ hkeys)
  | entry _ ih => exact .entry ih
  | item _ ih => exact .item ih
  | component _ ih => exact .component ih
  | inside _ ih => exact .inside ih

theorem Shuffle.isContainer (h : v.Shuffle free w) : v.isContainer = true := by
  cases h <;> rfl

theorem Shuffle.isMap_eq (h : v.Shuffle free w) : v.isMap = w.isMap := by
  induction h with
  | inside _ ih => exact ih
  | _ => rfl

/-- A shuffle of a knot is one of the container inside of it. -/
theorem Shuffle.untied (h : v.Shuffle free w) : v.untied.Shuffle free w.untied := by
  induction h with
  | map hperm hkeys => exact .map hperm hkeys
  | entry h _ => exact .entry h
  | item h _ => exact .item h
  | component h _ => exact .component h
  | inside _ ih => exact ih

/-- In the items of a list or tuple, one is shuffled. -/
theorem Shuffle.items {items : List Value} (h : v.Shuffle free w)
    (hitems : v.items? = some items) :
    ∃ before after x y, x.Shuffle free y ∧ items = before ++ x :: after ∧
      w.items? = some (before ++ y :: after) := by
  induction h with
  | map => simp at hitems
  | entry => simp at hitems
  | @item before after x y h _ | @component before after x y h _ =>
      obtain rfl := Option.some.inj hitems
      exact ⟨before, after, x, y, h, rfl, rfl⟩
  | inside _ ih => exact ih hitems

theorem Shuffle.items?_eq_none (h : v.Shuffle free w) (hitems : v.items? = none) :
    w.items? = none := by
  induction h with
  | item => simp at hitems
  | component => simp at hitems
  | inside _ ih => exact ih hitems
  | _ => rfl

/-- A map becomes a map when it is shuffled. -/
theorem Shuffle.entries {entries : List (Value × Value)} (h : v.Shuffle free w)
    (hmap : v.untied = .map entries) :
    ∃ others, w.untied = .map others ∧ (Value.map entries).Shuffle free (.map others) := by
  have hinside := h.untied
  rw [hmap] at hinside
  generalize w.untied = x at hinside
  cases hinside with
  | map hperm hkeys => exact ⟨_, rfl, .map hperm hkeys⟩
  | entry h => exact ⟨_, rfl, .entry h⟩

/-- What is read from the entries of a map is read again, up to order and up to `S`,
once the map is shuffled. -/
theorem Shuffle.exists_read {β : Type} {R : Value × Value → Text × β → Prop} {S : β → β → Prop}
    (hrefl : ∀ b, S b b) {entries others : List (Value × Value)}
    (h : (Value.map entries).Shuffle free (.map others))
    (hvalue : ∀ k x y, (k, x) ∈ entries → x.Shuffle free y → ∀ e, R (k, x) e →
      ∃ f, (e.1 = f.1 ∧ S e.2 f.2) ∧ R (k, y) f)
    {read : Entries β} (hread : List.Forall₂ R entries read) :
    ∃ middle reread, List.Forall₂ (fun e f => e.1 = f.1 ∧ S e.2 f.2) read middle ∧
      middle.Perm reread ∧ List.Forall₂ R others reread := by
  cases h with
  | map hperm _ =>
      obtain ⟨reread, hothers, hmoved⟩ := List.perm_comp_forall₂ hperm.symm hread
      exact ⟨read, reread, List.forall₂_same.mpr fun e _ => ⟨rfl, hrefl e.2⟩,
        hmoved.symm, hothers⟩
  | entry hxy =>
      obtain ⟨reread, haligned, hothers⟩ := exists_forall₂_replace
        (S := fun e f : Text × β => e.1 = f.1 ∧ S e.2 f.2) (fun e => ⟨rfl, hrefl e.2⟩)
        (hvalue _ _ _ (by simp) hxy) hread
      exact ⟨reread, reread, haligned, .refl _, hothers⟩

/-! ## Contexts -/

theorem reordered_list {items others : List Value}
    (h : List.Forall₂ (Reordered free) items others) :
    (Value.list items).Reordered free (.list others) :=
  reflTransGen_of_forall₂ Value.list (fun before after _ _ hxy =>
    Relation.ReflTransGen.lift (fun x => Value.list (before ++ x :: after))
      (fun _ _ => Shuffle.item) _ _ hxy) h

theorem reordered_map {entries others : List (Value × Value)}
    (h : List.Forall₂ (fun e f => e.1 = f.1 ∧ e.2.Reordered free f.2) entries others) :
    (Value.map entries).Reordered free (.map others) := by
  refine reflTransGen_of_forall₂ Value.map ?_ h
  rintro before after ⟨k, x⟩ ⟨_, y⟩ ⟨rfl, hxy⟩
  exact Relation.ReflTransGen.lift (fun x => Value.map (before ++ (k, x) :: after))
    (fun _ _ => Shuffle.entry) _ _ hxy

theorem reordered_ofEntries {es fs : Entries Value}
    (h : List.Forall₂ (fun e f => e.1 = f.1 ∧ e.2.Reordered free f.2) es fs) :
    (Value.ofEntries es).Reordered free (.ofEntries fs) := by
  refine reordered_map ?_
  rw [List.forall₂_map_left_iff, List.forall₂_map_right_iff]
  exact h.imp fun _ _ hef => ⟨congrArg Value.text hef.1, hef.2⟩

/-! ## Leaves -/

/-- Shuffling moves what a value is made of, and loses nothing. -/
theorem Shuffle.reaches (h : v.Shuffle free w) {u : Value} (hleaf : u.isContainer = false)
    (hu : v.Reaches u) : w.Reaches u := by
  have hne : ∀ x : Value, x.isContainer = true → u ≠ x := by
    rintro x hx rfl
    rw [hx] at hleaf
    cases hleaf
  induction h with
  | map hperm _ =>
      obtain ⟨e, he, hreaches⟩ := (reaches_map_iff.mp hu).resolve_left (hne _ rfl)
      exact reaches_map_iff.mpr (.inr ⟨e, hperm.mem_iff.mp he, hreaches⟩)
  | entry _ ih =>
      have hparts := (reaches_map_iff.mp hu).resolve_left (hne _ rfl)
      refine reaches_map_iff.mpr (.inr ?_)
      simp only [List.mem_append, List.mem_cons, or_and_right, exists_or,
        exists_eq_left] at hparts ⊢
      exact hparts.imp_right (Or.imp_left ih)
  | item _ ih =>
      have hparts := (reaches_list_iff.mp hu).resolve_left (hne _ rfl)
      refine reaches_list_iff.mpr (.inr ?_)
      simp only [List.mem_append, List.mem_cons, or_and_right, exists_or,
        exists_eq_left] at hparts ⊢
      exact hparts.imp_right (Or.imp_left ih)
  | component _ ih =>
      have hparts := (reaches_tuple_iff.mp hu).resolve_left (hne _ rfl)
      refine reaches_tuple_iff.mpr (.inr ?_)
      simp only [List.mem_append, List.mem_cons, or_and_right, exists_or,
        exists_eq_left] at hparts ⊢
      exact hparts.imp_right (Or.imp_left ih)
  | inside _ ih =>
      exact reaches_knot_iff.mpr (.inr (ih ((reaches_knot_iff.mp hu).resolve_left (hne _ rfl))))

theorem reaches_of_reordered (h : v.Reordered free w) {u : Value} (hleaf : u.isContainer = false)
    (hu : v.Reaches u) : w.Reaches u := by
  induction h with
  | refl => exact hu
  | tail _ hstep ih => exact hstep.reaches hleaf ih

/-! ## Keys -/

theorem textKeyed_list_iff {items : List Value} :
    (Value.list items).TextKeyed ↔ ∀ v ∈ items, v.TextKeyed := by
  simp only [TextKeyed, reaches_list_iff, reduceCtorEq, false_or]
  grind

theorem textKeyed_tuple_iff {items : List Value} :
    (Value.tuple items).TextKeyed ↔ ∀ v ∈ items, v.TextKeyed := by
  simp only [TextKeyed, reaches_tuple_iff, reduceCtorEq, false_or]
  grind

theorem textKeyed_map_iff {entries : List (Value × Value)} :
    (Value.map entries).TextKeyed ↔
      (∀ e ∈ entries, e.1.IsText) ∧ ∀ e ∈ entries, e.2.TextKeyed := by
  simp only [TextKeyed, reaches_map_iff, Value.map.injEq]
  grind

theorem textKeyed_knot_iff {label : Nat} {container : Value} :
    (Value.knot label container).TextKeyed ↔ container.TextKeyed := by
  simp only [TextKeyed, reaches_knot_iff, reduceCtorEq, false_or]

theorem textKeyed_leaf (hleaf : v.isContainer = false) : v.TextKeyed := by
  intro entries hreaches
  obtain rfl := (reaches_leaf_iff hleaf).mp hreaches
  cases hleaf

theorem TextKeyed.reaches (h : v.TextKeyed) (hreaches : v.Reaches w) : w.TextKeyed :=
  fun entries hentries => h entries (hreaches.trans hentries)

/-- Shuffling keeps plain data plain, and keys texts. -/
theorem Shuffle.plain_textKeyed (h : v.Shuffle free w) (hplain : v.isPlain = true)
    (hkeys : v.TextKeyed) : w.isPlain = true ∧ w.TextKeyed := by
  induction h with
  | @map entries others hperm _ =>
      obtain ⟨htexts, hvalues⟩ := textKeyed_map_iff.mp hkeys
      obtain ⟨hdistinct, hparts⟩ := isPlain_map_iff.mp hplain
      have hothers : ∀ e ∈ others, e.1.IsText := fun e he => htexts e (hperm.mem_iff.mpr he)
      refine ⟨isPlain_map_iff.mpr ⟨?_, fun e he => hparts e (hperm.mem_iff.mpr he)⟩,
        textKeyed_map_iff.mpr ⟨hothers, fun e he => hvalues e (hperm.mem_iff.mpr he)⟩⟩
      rw [distinctKeys_iff_nodup hothers, ← (hperm.map Prod.fst).nodup_iff]
      exact (distinctKeys_iff_nodup htexts).mp hdistinct
  | @entry before after k v w _ ih =>
      rw [textKeyed_map_iff] at hkeys ⊢
      rw [isPlain_map_iff] at hplain ⊢
      simp only [List.forall_mem_append, List.forall_mem_cons] at hkeys hplain ⊢
      obtain ⟨⟨hbefore, hk, hafter⟩, hkeysBefore, hkeysHere, hkeysAfter⟩ := hkeys
      obtain ⟨hdistinct, hplainBefore, hplainHere, hplainAfter⟩ := hplain
      obtain ⟨hplainThere, hkeysThere⟩ := ih hplainHere hkeysHere
      refine ⟨⟨?_, hplainBefore, hplainThere, hplainAfter⟩, ⟨hbefore, hk, hafter⟩, hkeysBefore,
        hkeysThere, hkeysAfter⟩
      have htexts : ∀ u, ∀ e ∈ before ++ (k, u) :: after, e.1.IsText := fun u =>
        List.forall_mem_append.mpr ⟨hbefore, List.forall_mem_cons.mpr ⟨hk, hafter⟩⟩
      rw [distinctKeys_iff_nodup (htexts _)] at hdistinct ⊢
      simpa using hdistinct
  | item _ ih =>
      rw [textKeyed_list_iff] at hkeys ⊢
      rw [isPlain_list_iff] at hplain ⊢
      simp only [List.forall_mem_append, List.forall_mem_cons] at hkeys hplain ⊢
      obtain ⟨hplainThere, hkeysThere⟩ := ih hplain.2.1 hkeys.2.1
      exact ⟨⟨hplain.1, hplainThere, hplain.2.2⟩, hkeys.1, hkeysThere, hkeys.2.2⟩
  | component _ ih =>
      rw [textKeyed_tuple_iff] at hkeys ⊢
      rw [isPlain_tuple_iff] at hplain ⊢
      simp only [List.forall_mem_append, List.forall_mem_cons] at hkeys hplain ⊢
      obtain ⟨hplainThere, hkeysThere⟩ := ih hplain.2.1 hkeys.2.1
      exact ⟨⟨hplain.1, hplainThere, hplain.2.2⟩, hkeys.1, hkeysThere, hkeys.2.2⟩
  | inside _ ih =>
      rw [textKeyed_knot_iff] at hkeys ⊢
      exact ih hplain hkeys

end Value
end TerseSchema
