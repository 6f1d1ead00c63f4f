import TerseSchema.Proofs.Sorting.Search
import Mathlib.Data.List.Pairwise
/-!
# Runs in order

An order that can put any two of some items in order, and the lists of such items that it has
in order. Where it is held against a list, the runs that are found and filled up are in
order, and no item is lost.
-/

namespace TerseSchema.Sorting

variable {α : Type}

/-- Among the items in `P`, one comes before another exactly when the order `le` says so. -/
structure Decides (before? : Order α) (le : α → α → Bool) (P : α → Prop) : Prop where
  total : ∀ v w, le v w = true ∨ le w v = true
  trans : ∀ u v w, le u v = true → le v w = true → le u w = true
  before : ∀ v w, P v → P w → before? v w = some (!le w v)

def directed (down : Bool) (le : α → α → Bool) (v w : α) : Bool :=
  if down then le w v else le v w

/-- A list of items in `P` in ascending order, or in descending order. -/
structure IsRun (down : Bool) (le : α → α → Bool) (P : α → Prop) (l : List α) : Prop where
  sorted : l.Pairwise fun v w => directed down le v w = true
  within : ∀ v ∈ l, P v

variable {before? : Order α} {le : α → α → Bool} {P : α → Prop} {down : Bool}
  {l r : List α} {v : α}

/-! ## Runs -/

theorem IsRun.nil : IsRun down le P [] := ⟨.nil, by simp⟩

theorem IsRun.singleton (hv : P v) : IsRun down le P [v] := ⟨by simp, by simpa using hv⟩

theorem IsRun.sublist (h : IsRun down le P l) (hsub : r.Sublist l) : IsRun down le P r :=
  ⟨h.sorted.sublist hsub, fun v hv => h.within v (hsub.subset hv)⟩

theorem IsRun.directed_take_drop {k : Nat} {w : α} (h : IsRun down le P l) (hv : v ∈ l.take k)
    (hw : w ∈ l.drop k) : directed down le v w = true := by
  have hsorted := h.sorted
  rw [← List.take_append_drop k l, List.pairwise_append] at hsorted
  exact hsorted.2.2 v hv w hw

theorem IsRun.append (hl : IsRun down le P l) (hr : IsRun down le P r)
    (h : ∀ v ∈ l, ∀ w ∈ r, directed down le v w = true) : IsRun down le P (l ++ r) where
  sorted := List.pairwise_append.mpr ⟨hl.sorted, hr.sorted, h⟩
  within := by
    intro v hv
    rcases List.mem_append.mp hv with hv | hv
    · exact hl.within v hv
    · exact hr.within v hv

theorem IsRun.reverse (h : IsRun down le P l) : IsRun (!down) le P l.reverse where
  sorted := by
    rw [List.pairwise_reverse]
    refine h.sorted.imp fun {v w} hvw => ?_
    cases down <;> exact hvw
  within := by simpa using h.within

private theorem insertIdx_eq_take_drop (k : Nat) (hk : k ≤ l.length) :
    l.insertIdx k v = l.take k ++ v :: l.drop k := by
  induction l generalizing k with
  | nil =>
      obtain rfl : k = 0 := by simpa using hk
      rfl
  | cons w l ih =>
      cases k with
      | zero => rfl
      | succ k => simp [ih k (by simpa using hk)]

section Order

variable (hord : Decides before? le P)

include hord

theorem directed_trans {u w : α} (huv : directed down le u v = true)
    (hvw : directed down le v w = true) : directed down le u w = true := by
  cases down with
  | false => exact hord.trans u v w huv hvw
  | true => exact hord.trans w v u hvw huv

/-- What goes before the first item of a run goes before all of them. -/
theorem IsRun.directed_of_head {u w : α} (h : IsRun down le P (w :: l))
    (hvw : directed down le v w = true) (hu : u ∈ w :: l) : directed down le v u = true := by
  rcases List.mem_cons.mp hu with rfl | hu
  · exact hvw
  · exact directed_trans hord hvw (List.rel_of_pairwise_cons h.sorted hu)

theorem IsRun.cons {w : α} (hv : P v) (hvw : directed down le v w = true)
    (h : IsRun down le P (w :: l)) : IsRun down le P (v :: w :: l) where
  sorted := List.pairwise_cons.mpr ⟨fun u hu => h.directed_of_head hord hvw hu, h.sorted⟩
  within := by
    intro u hu
    rcases List.mem_cons.mp hu with rfl | hu
    · exact hv
    · exact h.within u hu

theorem Decides.le_of_not {w : α} (h : le v w = false) : le w v = true := by
  rcases hord.total v w with hle | hle
  · rw [h] at hle
    cases hle
  · exact hle

/-! ## Places in runs -/

theorem isUpTo_eq_passes (hl : ∀ w ∈ l, P w) (hv : P v) (n : Nat) :
    isUpTo before? l.toArray v n = some (passes l (le · v) n) := by
  rw [isUpTo, passes, List.getElem?_toArray]
  cases hn : l[n]? with
  | none => rfl
  | some w => simp [hord.before v w hv (hl w (List.mem_of_getElem? hn))]

theorem isBelow_eq_passes (hl : ∀ w ∈ l, P w) (hv : P v) (n : Nat) :
    isBelow before? l.toArray v n = some (passes l (fun w => !le v w) n) := by
  rw [isBelow, passes, List.getElem?_toArray]
  cases hn : l[n]? with
  | none => rfl
  | some w => simp [hord.before w v (hl w (List.mem_of_getElem? hn)) hv]

theorem passes_isUpTo_mono (hl : IsRun false le P l) (m n : Nat) (hmn : m ≤ n)
    (hn : passes l (le · v) n = true) : passes l (le · v) m = true :=
  passes_of_le (hl.sorted.imp fun {_ _} huw hw => hord.trans _ _ _ huw hw) m n hmn hn

theorem passes_isBelow_mono (hl : IsRun false le P l) (m n : Nat) (hmn : m ≤ n)
    (hn : passes l (fun w => !le v w) n = true) : passes l (fun w => !le v w) m = true := by
  refine passes_of_le (hl.sorted.imp fun {u w} huw hw => ?_) m n hmn hn
  cases hvu : le v u with
  | false => rfl
  | true => simp [hord.trans v u w hvu huw] at hw

/-- Galloping finds how much of a run stays before an item that goes behind its equals. -/
theorem exists_gallop_isUpTo (hl : IsRun false le P l) (hv : P v) {hint : Nat}
    (hhint : hint < l.length) :
    ∃ k, gallop (isUpTo before? l.toArray v) l.length hint = some k ∧ Parts l (le · v) k := by
  obtain ⟨k, hk, hborder⟩ := exists_gallop (isUpTo_eq_passes hord hl.within hv)
    (passes_isUpTo_mono hord hl) hhint
  exact ⟨k, hk, hborder.parts⟩

theorem exists_gallop_isBelow (hl : IsRun false le P l) (hv : P v) {hint : Nat}
    (hhint : hint < l.length) :
    ∃ k, gallop (isBelow before? l.toArray v) l.length hint = some k ∧
      Parts l (fun w => !le v w) k := by
  obtain ⟨k, hk, hborder⟩ := exists_gallop (isBelow_eq_passes hord hl.within hv)
    (passes_isBelow_mono hord hl) hhint
  exact ⟨k, hk, hborder.parts⟩

/-! ## Insertion -/

theorem exists_insertOrdered (hl : IsRun false le P l) (hv : P v) :
    ∃ out, insertOrdered? before? l v = some out ∧ IsRun false le P out ∧ out.Perm (v :: l) := by
  obtain ⟨k, hk, hborder⟩ := @exists_halve _ _ (isUpTo_eq_passes hord hl.within hv)
    (passes_isUpTo_mono hord hl) l.length 0 l.length (Nat.zero_le l.length) (by omega)
  have hparts := hborder.parts
  refine ⟨l.insertIdx k v, by simp [insertOrdered?, hk], ?_,
    List.perm_insertIdx v l hparts.le_length⟩
  rw [insertIdx_eq_take_drop k hparts.le_length]
  have hdrop : IsRun false le P (v :: l.drop k) := by
    refine (IsRun.singleton hv).append (hl.sublist (List.drop_sublist k l)) ?_
    intro u hu w hw
    rw [List.mem_singleton] at hu
    subst hu
    exact hord.le_of_not (hparts.drop w hw)
  refine (hl.sublist (List.take_sublist k l)).append hdrop ?_
  intro u hu w hw
  rcases List.mem_cons.mp hw with rfl | hw
  · exact hparts.take u hu
  · exact hl.directed_take_drop hu hw

theorem exists_foldlM_insertOrdered (hl : IsRun false le P l) (hr : ∀ v ∈ r, P v) :
    ∃ out, r.foldlM (insertOrdered? before?) l = some out ∧ IsRun false le P out ∧
      out.Perm (l ++ r) := by
  induction r generalizing l with
  | nil => exact ⟨l, rfl, hl, by simp⟩
  | cons v r ih =>
      rw [List.forall_mem_cons] at hr
      obtain ⟨next, hnext, hrun, hperm⟩ := exists_insertOrdered hord hl hr.1
      obtain ⟨out, hout, horun, hoperm⟩ := ih hrun hr.2
      refine ⟨out, by simp [hnext, hout], horun, ?_⟩
      exact hoperm.trans ((hperm.append_right r).trans List.perm_middle.symm)

/-! ## Finding runs -/

theorem exists_runAfter (hv : P v) (hl : ∀ w ∈ l, P w) :
    ∃ run after, runAfter? before? down v l = some (run, after) ∧ run ++ after = l ∧
      IsRun down le P (v :: run) := by
  induction l generalizing v with
  | nil => exact ⟨[], [], rfl, rfl, .singleton hv⟩
  | cons w l ih =>
      rw [List.forall_mem_cons] at hl
      simp only [runAfter?, hord.before w v hl.1 hv]
      by_cases hdown : (!le v w) = down
      · obtain ⟨run, after, hafter, hsplit, hrun⟩ := ih hl.1 hl.2
        refine ⟨w :: run, after, by simp [hdown, hafter], by simp [hsplit], ?_⟩
        refine hrun.cons hord hv ?_
        cases down with
        | false => simpa [directed] using hdown
        | true => exact hord.le_of_not (by simpa using hdown)
      · exact ⟨[], w :: l, by simp [hdown], rfl, .singleton hv⟩

theorem exists_firstRun (hl : ∀ w ∈ l, P w) :
    ∃ run rest, firstRun? before? l = some (run, rest) ∧ IsRun false le P run ∧
      (run ++ rest).Perm l ∧ (l ≠ [] → run ≠ []) := by
  match l, hl with
  | [], _ => exact ⟨[], [], rfl, .nil, .nil, by simp⟩
  | [v], hl => exact ⟨[v], [], rfl, .singleton (hl v (by simp)), by simp, by simp⟩
  | v :: w :: l, hl =>
      simp only [List.forall_mem_cons] at hl
      obtain ⟨run, after, hafter, hsplit, hrun⟩ :=
        @exists_runAfter α before? le P (!le v w) l w hord hl.2.1 hl.2.2
      simp only [firstRun?, hord.before w v hl.2.1 hl.1, hafter, Option.bind_eq_bind,
        Option.bind_some]
      cases hvw : le v w with
      | true =>
          rw [hvw] at hrun
          exact ⟨_, _, rfl, hrun.cons hord hl.1 hvw, by simp [hsplit], by simp⟩
      | false =>
          rw [hvw] at hrun
          have hdown : IsRun true le P (v :: w :: run) :=
            hrun.cons hord hl.1 (hord.le_of_not hvw)
          refine ⟨_, _, rfl, hdown.reverse, ?_, by simp⟩
          have hperm := (List.reverse_perm (v :: w :: run)).append_right after
          simpa [hsplit] using hperm

/-- The runs that a list is cut into are in order, and no item is lost. -/
theorem exists_filledRun (least : Nat) (hl : ∀ w ∈ l, P w) :
    ∃ run rest, filledRun? before? least l = some (run, rest) ∧ IsRun false le P run ∧
      (run ++ rest).Perm l ∧ (l ≠ [] → run ≠ []) := by
  obtain ⟨first, rest, hfirst, hrun, hperm, hne⟩ := exists_firstRun hord hl
  have hrest : ∀ w ∈ rest.take (least - first.length), P w := by
    intro w hw
    exact hl w (hperm.subset (List.mem_append_right _ (List.mem_of_mem_take hw)))
  obtain ⟨out, hout, horun, hoperm⟩ := exists_foldlM_insertOrdered hord hrun hrest
  refine ⟨out, rest.drop (least - first.length),
    by simp [filledRun?, hfirst, hout], horun, ?_, ?_⟩
  · have htail := hoperm.append_right (rest.drop (least - first.length))
    rw [List.append_assoc, List.take_append_drop] at htail
    exact htail.trans hperm
  · rintro hnonempty rfl
    have hnil := hoperm.symm.eq_nil
    exact hne hnonempty (List.append_eq_nil_iff.mp hnil).1

end Order
end TerseSchema.Sorting
