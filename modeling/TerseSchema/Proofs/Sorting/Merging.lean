import TerseSchema.Proofs.Sorting.Runs
/-!
# Merging two runs

However the items of two runs are taken, one by one or many at once, each goes before all that
are left. A merge that is over therefore has all items in order.
-/

namespace TerseSchema.Sorting

open scoped List

variable {α : Type} {before? : Order α} {le : α → α → Bool} {P : α → Prop}

/-! ## What is left -/

structure Ready (down : Bool) (le : α → α → Bool) (P : α → Prop) (done a b : List α) : Prop where
  taken : IsRun down le P done
  first : IsRun down le P a
  second : IsRun down le P b
  before_first : ∀ v ∈ done, ∀ w ∈ a, directed down le v w = true
  before_second : ∀ v ∈ done, ∀ w ∈ b, directed down le v w = true

variable {down : Bool} {done a b : List α}

theorem Ready.symm (h : Ready down le P done a b) : Ready down le P done b a :=
  ⟨h.taken, h.second, h.first, h.before_second, h.before_first⟩

theorem Ready.take (h : Ready down le P done a b) (count : Nat)
    (hgo : ∀ v ∈ a.take count, ∀ w ∈ b, directed down le v w = true) :
    Ready down le P (done ++ a.take count) (a.drop count) b where
  taken := h.taken.append (h.first.sublist (List.take_sublist count a)) fun v hv w hw =>
    h.before_first v hv w (List.mem_of_mem_take hw)
  first := h.first.sublist (List.drop_sublist count a)
  second := h.second
  before_first := by
    intro v hv w hw
    rcases List.mem_append.mp hv with hv | hv
    · exact h.before_first v hv w (List.mem_of_mem_drop hw)
    · exact h.first.directed_take_drop hv hw
  before_second := by
    intro v hv w hw
    rcases List.mem_append.mp hv with hv | hv
    · exact h.before_second v hv w hw
    · exact hgo v hv w hw

namespace Merge

variable {m : Merge α}

def kept (m : Merge α) : List α := if m.fromEnd then m.right else m.left

def other (m : Merge α) : List α := if m.fromEnd then m.left else m.right

def all (m : Merge α) : List α := m.merged ++ (m.left ++ m.right)

/-- Nothing goes behind the end of the run that is to go last. -/
structure Valid (le : α → α → Bool) (P : α → Prop) (m : Merge α) : Prop where
  ready : Ready m.fromEnd le P m.merged.reverse m.left m.right
  final : ∀ w ∈ m.kept.getLast?, ∀ v ∈ m.other, directed m.fromEnd le v w = true

theorem items_eq (m : Merge α) :
    m.items = if m.fromEnd then (m.merged.reverse ++ m.other ++ m.kept).reverse
      else m.merged.reverse ++ m.other ++ m.kept := by
  cases h : m.fromEnd <;> simp [items, kept, other, h]

theorem items_perm_all (m : Merge α) : m.items.Perm m.all := by
  have hmerged := List.reverse_perm m.merged
  cases h : m.fromEnd with
  | false =>
      calc m.items
          = m.merged.reverse ++ (m.right ++ m.left) := by simp [items, h]
        _ ~ m.merged ++ (m.right ++ m.left) := hmerged.append_right _
        _ ~ m.all := List.perm_append_comm.append_left m.merged
  | true =>
      have hleft := (List.reverse_perm m.left).append (List.reverse_perm m.right)
      calc m.items
          = (m.right.reverse ++ m.left.reverse) ++ m.merged := by simp [items, h]
        _ ~ m.merged ++ (m.right.reverse ++ m.left.reverse) := List.perm_append_comm
        _ ~ m.merged ++ (m.left.reverse ++ m.right.reverse) :=
          List.perm_append_comm.append_left _
        _ ~ m.all := hleft.append_left m.merged

theorem isOver_iff : m.isOver = true ↔ m.other = [] ∨ m.kept.length ≤ 1 := by
  cases h : m.fromEnd <;> simp [isOver, kept, other, h]

theorem ne_nil_of_not_isOver (h : m.isOver = false) : m.left ≠ [] ∧ m.right ≠ [] := by
  have hnot : ¬(m.other = [] ∨ m.kept.length ≤ 1) := by
    rw [← isOver_iff, h]
    exact Bool.false_ne_true
  rw [not_or] at hnot
  have hkept : m.kept ≠ [] := by
    intro hnil
    exact hnot.2 (by simp [hnil])
  cases hend : m.fromEnd with
  | false => exact ⟨by simpa [kept, hend] using hkept, by simpa [other, hend] using hnot.1⟩
  | true => exact ⟨by simpa [other, hend] using hnot.1, by simpa [kept, hend] using hkept⟩

theorem Valid.ready_other (h : m.Valid le P) :
    Ready m.fromEnd le P m.merged.reverse m.other m.kept := by
  cases hend : m.fromEnd with
  | false => simpa [other, kept, hend] using h.ready.symm
  | true => simpa [other, kept, hend] using h.ready

/-- The items of a merge that is over are in order. -/
theorem Valid.isRun_items (h : m.Valid le P) (hover : m.isOver = true) :
    IsRun false le P m.items := by
  have hready := h.ready_other
  have hrun : IsRun m.fromEnd le P (m.merged.reverse ++ m.other ++ m.kept) := by
    refine (hready.taken.append hready.first hready.before_first).append hready.second ?_
    intro v hv w hw
    rcases List.mem_append.mp hv with hv | hv
    · exact hready.before_second v hv w hw
    rcases isOver_iff.mp hover with hother | hkept
    · rw [hother] at hv
      cases hv
    · have hlast : m.kept.getLast? = some w := by
        obtain ⟨u, hu⟩ := List.length_eq_one_iff.mp
          (Nat.le_antisymm hkept (List.length_pos_of_mem hw))
        rw [hu, List.mem_singleton] at hw
        rw [hu, hw]
        rfl
      exact h.final w hlast v hv
  rw [items_eq]
  cases hend : m.fromEnd with
  | false => simpa [hend] using hrun
  | true =>
      rw [hend] at hrun
      exact hrun.reverse

/-! ## Taking items -/

private theorem getLast?_of_drop {l : List α} {count : Nat} {w : α}
    (h : (l.drop count).getLast? = some w) : l.getLast? = some w := by
  rw [List.getLast?_drop] at h
  split at h
  · cases h
  · exact h

theorem Valid.takeLeft (h : m.Valid le P) (count : Nat)
    (hgo : ∀ v ∈ m.left.take count, ∀ w ∈ m.right, directed m.fromEnd le v w = true) :
    (m.takeLeft count).Valid le P where
  ready := by simpa [Merge.takeLeft] using h.ready.take count hgo
  final := by
    have hfinal := h.final
    intro w hw v hv
    cases hend : m.fromEnd with
    | false =>
        simp only [kept, other, hend, Merge.takeLeft, Bool.false_eq_true,
          if_false] at hfinal hw hv ⊢
        exact hfinal w (getLast?_of_drop hw) v hv
    | true =>
        simp only [kept, other, hend, Merge.takeLeft, if_true] at hfinal hw hv ⊢
        exact hfinal w hw v (List.mem_of_mem_drop hv)

theorem Valid.takeRight (h : m.Valid le P) (count : Nat)
    (hgo : ∀ v ∈ m.right.take count, ∀ w ∈ m.left, directed m.fromEnd le v w = true) :
    (m.takeRight count).Valid le P where
  ready := by simpa [Merge.takeRight] using (h.ready.symm.take count hgo).symm
  final := by
    have hfinal := h.final
    intro w hw v hv
    cases hend : m.fromEnd with
    | false =>
        simp only [kept, other, hend, Merge.takeRight, Bool.false_eq_true,
          if_false] at hfinal hw hv ⊢
        exact hfinal w hw v (List.mem_of_mem_drop hv)
    | true =>
        simp only [kept, other, hend, Merge.takeRight, if_true] at hfinal hw hv ⊢
        exact hfinal w (getLast?_of_drop hw) v hv

theorem all_takeLeft_perm (m : Merge α) (count : Nat) : (m.takeLeft count).all.Perm m.all := by
  have htake : (m.left.take count).reverse ++ m.merged ~ m.merged ++ m.left.take count :=
    ((List.reverse_perm _).append_right m.merged).trans List.perm_append_comm
  calc (m.takeLeft count).all
      = ((m.left.take count).reverse ++ m.merged) ++ (m.left.drop count ++ m.right) := rfl
    _ ~ (m.merged ++ m.left.take count) ++ (m.left.drop count ++ m.right) := htake.append_right _
    _ = m.merged ++ ((m.left.take count ++ m.left.drop count) ++ m.right) := by
        simp only [List.append_assoc]
    _ = m.all := by rw [List.take_append_drop, all]

theorem all_takeRight_perm (m : Merge α) (count : Nat) : (m.takeRight count).all.Perm m.all := by
  have htake : (m.right.take count).reverse ++ m.merged ~ m.merged ++ m.right.take count :=
    ((List.reverse_perm _).append_right m.merged).trans List.perm_append_comm
  have hsplit : m.right.take count ++ (m.left ++ m.right.drop count) ~ m.left ++ m.right := by
    apply (List.perm_append_comm_assoc _ _ _).trans
    rw [List.take_append_drop]
  calc (m.takeRight count).all
      = ((m.right.take count).reverse ++ m.merged) ++ (m.left ++ m.right.drop count) := rfl
    _ ~ (m.merged ++ m.right.take count) ++ (m.left ++ m.right.drop count) :=
      htake.append_right _
    _ = m.merged ++ (m.right.take count ++ (m.left ++ m.right.drop count)) := by
        rw [List.append_assoc]
    _ ~ m.all := hsplit.append_left m.merged

/-! ## Winning in a row -/

section Order

variable (hord : Decides before? le P)

include hord

theorem exists_leftWins {w : α} {rest : List α} (h : m.Valid le P) (hleft : m.left ≠ [])
    (hright : m.right = w :: rest) :
    ∃ count, m.leftWins before? = some count ∧
      (∀ v ∈ m.left.take count, directed m.fromEnd le v w = true) ∧
      ∀ v ∈ m.left.drop count, directed m.fromEnd le w v = true := by
  have hw : P w := h.ready.second.within w (by simp [hright])
  have hpos := List.length_pos_iff.mpr hleft
  have hrun := h.ready.first
  cases hend : m.fromEnd with
  | false =>
      rw [hend] at hrun
      obtain ⟨k, hk, hparts⟩ := exists_gallop_isUpTo hord hrun hw hpos
      refine ⟨k, by simp [leftWins, hright, hend, hk], hparts.take, fun v hv => ?_⟩
      exact hord.le_of_not (hparts.drop v hv)
  | true =>
      rw [hend] at hrun
      have hhint : m.left.length - 1 < m.left.reverse.length := by simpa using by omega
      obtain ⟨k, hk, hparts⟩ := exists_gallop_isUpTo hord hrun.reverse hw hhint
      rw [List.length_reverse] at hk
      refine ⟨m.left.length - k, by simp [leftWins, hright, hend, hk], ?_, hparts.of_reverse.2⟩
      intro v hv
      exact hord.le_of_not (hparts.of_reverse.1 v hv)

theorem exists_rightWins {w : α} {rest : List α} (h : m.Valid le P) (hright : m.right ≠ [])
    (hleft : m.left = w :: rest) :
    ∃ count, m.rightWins before? = some count ∧
      (∀ v ∈ m.right.take count, directed m.fromEnd le v w = true) ∧
      ∀ v ∈ m.right.drop count, directed m.fromEnd le w v = true := by
  have hw : P w := h.ready.first.within w (by simp [hleft])
  have hpos := List.length_pos_iff.mpr hright
  have hrun := h.ready.second
  cases hend : m.fromEnd with
  | false =>
      rw [hend] at hrun
      obtain ⟨k, hk, hparts⟩ := exists_gallop_isBelow hord hrun hw hpos
      refine ⟨k, by simp [rightWins, hleft, hend, hk], fun v hv => ?_, fun v hv => ?_⟩
      · exact hord.le_of_not (by simpa using hparts.take v hv)
      · simpa [directed] using hparts.drop v hv
  | true =>
      rw [hend] at hrun
      have hhint : m.right.length - 1 < m.right.reverse.length := by simpa using by omega
      obtain ⟨k, hk, hparts⟩ := exists_gallop_isBelow hord hrun.reverse hw hhint
      rw [List.length_reverse] at hk
      refine ⟨m.right.length - k, by simp [rightWins, hleft, hend, hk], ?_, ?_⟩
      · intro v hv
        simpa [directed] using hparts.of_reverse.1 v hv
      · intro v hv
        exact hord.le_of_not (by simpa using hparts.of_reverse.2 v hv)

/-! ## Whole merges -/

omit hord in
/-- What a merge is to come to: it is over, still valid, and has the same items. -/
def Ends (le : α → α → Bool) (P : α → Prop) (m : Merge α) (result : Option (Merge α)) : Prop :=
  ∃ n, result = some n ∧ n.Valid le P ∧ n.isOver = true ∧ n.all.Perm m.all

omit hord in
theorem Ends.of_perm {n : Merge α} {result : Option (Merge α)} (h : Ends le P n result)
    (hperm : n.all.Perm m.all) : Ends le P m result := by
  obtain ⟨e, hresult, hvalid, hover, heperm⟩ := h
  exact ⟨e, hresult, hvalid, hover, heperm.trans hperm⟩

theorem Valid.takeLeft_of_wins {w : α} {rest : List α} (h : m.Valid le P)
    (hright : m.right = w :: rest) {count : Nat}
    (hwins : ∀ v ∈ m.left.take count, directed m.fromEnd le v w = true) :
    (m.takeLeft count).Valid le P := by
  have hrun := h.ready.second
  refine h.takeLeft count fun v hv u hu => ?_
  rw [hright] at hrun hu
  exact hrun.directed_of_head hord (hwins v hv) hu

theorem Valid.takeRight_of_wins {w : α} {rest : List α} (h : m.Valid le P)
    (hleft : m.left = w :: rest) {count : Nat}
    (hwins : ∀ v ∈ m.right.take count, directed m.fromEnd le v w = true) :
    (m.takeRight count).Valid le P := by
  have hrun := h.ready.first
  refine h.takeRight count fun v hv u hu => ?_
  rw [hleft] at hrun hu
  exact hrun.directed_of_head hord (hwins v hv) hu

theorem Valid.takeLeft_one {v w : α} {lefts rights : List α} (h : m.Valid le P)
    (hleft : m.left = v :: lefts) (hright : m.right = w :: rights)
    (hvw : directed m.fromEnd le v w = true) : (m.takeLeft 1).Valid le P := by
  refine h.takeLeft_of_wins hord hright fun u hu => ?_
  rw [hleft] at hu
  obtain rfl : u = v := by simpa using hu
  exact hvw

theorem Valid.takeRight_one {v w : α} {lefts rights : List α} (h : m.Valid le P)
    (hleft : m.left = v :: lefts) (hright : m.right = w :: rights)
    (hwv : directed m.fromEnd le w v = true) : (m.takeRight 1).Valid le P := by
  refine h.takeRight_of_wins hord hleft fun u hu => ?_
  rw [hright] at hu
  obtain rfl : u = w := by simpa using hu
  exact hwv

omit hord in
theorem Ends.of_isOver (h : m.Valid le P) {rest : Option (Merge α)}
    (hrest : m.isOver = false → Ends le P m rest) :
    Ends le P m (if m.isOver = true then some m else rest) := by
  cases hover : m.isOver with
  | false => simpa using hrest hover
  | true => exact ⟨m, rfl, h, hover, .refl _⟩

omit hord in
theorem Valid.withPatience (h : m.Valid le P) (patience : Nat) :
    ({ m with patience } : Merge α).Valid le P := ⟨h.ready, h.final⟩

omit hord in
/-- Merges end with as much fuel as there are items left, whether these are taken one
by one or many at once. -/
def EndsWithin (before? : Order α) (le : α → α → Bool) (P : α → Prop) (fuel : Nat) : Prop :=
  ∀ m : Merge α, m.Valid le P → m.isOver = false → m.left.length + m.right.length ≤ fuel →
    (∀ lefts rights, Ends le P m (stepwise before? lefts rights fuel m)) ∧
      Ends le P m (galloping before? fuel m)

omit hord in
theorem EndsWithin.next {fuel : Nat} (ih : EndsWithin before? le P fuel) (h : m.Valid le P)
    (hsize : m.left.length + m.right.length ≤ fuel) (pays : Prop) [Decidable pays]
    (lefts rights : Nat) :
    Ends le P m (if m.isOver = true then some m else if pays then galloping before? fuel m
      else stepwise before? lefts rights fuel m) := by
  refine .of_isOver h fun hover => ?_
  obtain ⟨hstep, hgallop⟩ := ih m h hover hsize
  split
  · exact hgallop
  · exact hstep lefts rights

omit hord in
theorem EndsWithin.round {fuel : Nat} (ih : EndsWithin before? le P fuel) (h : m.Valid le P)
    (hover : m.isOver = false) (hsize : m.left.length + m.right.length ≤ fuel) (pays : Prop)
    [Decidable pays] (x y : Nat) :
    Ends le P m (if pays then galloping before? fuel { m with patience := x }
      else stepwise before? 0 0 fuel { m with patience := y }) := by
  have hround := fun patience => ih { m with patience } (h.withPatience patience) hover hsize
  split
  · exact (hround x).2
  · exact (hround y).1 0 0

theorem ends_stepwise {fuel : Nat} (ih : EndsWithin before? le P fuel) (h : m.Valid le P)
    (hover : m.isOver = false) (hsize : m.left.length + m.right.length ≤ fuel + 1)
    (lefts rights : Nat) : Ends le P m (stepwise before? lefts rights (fuel + 1) m) := by
  obtain ⟨hleft, hright⟩ := ne_nil_of_not_isOver hover
  obtain ⟨a, as, has⟩ := List.exists_cons_of_ne_nil hleft
  obtain ⟨b, bs, hbs⟩ := List.exists_cons_of_ne_nil hright
  have hbefore : before? b a = some (!le a b) :=
    hord.before b a (h.ready.second.within b (by simp [hbs]))
      (h.ready.first.within a (by simp [has]))
  simp only [stepwise, has, hbs, hbefore]
  by_cases hwin : (!le a b) = m.fromEnd
  · have hab : directed m.fromEnd le a b = true := by
      cases hend : m.fromEnd with
      | false => simpa [directed, hend] using hwin
      | true => exact hord.le_of_not (by simpa [hend] using hwin)
    rw [if_pos hwin]
    refine (ih.next (h.takeLeft_one hord has hbs hab) ?_ _ _ _).of_perm (all_takeLeft_perm m 1)
    simp only [Merge.takeLeft, List.length_drop, has, List.length_cons] at hsize ⊢
    omega
  · have hba : directed m.fromEnd le b a = true := by
      cases hend : m.fromEnd with
      | false => exact hord.le_of_not (by simpa [hend] using hwin)
      | true => simpa [directed, hend] using hwin
    rw [if_neg hwin]
    refine (ih.next (h.takeRight_one hord has hbs hba) ?_ _ _ _).of_perm (all_takeRight_perm m 1)
    simp only [Merge.takeRight, List.length_drop, hbs, List.length_cons] at hsize ⊢
    omega

theorem ends_galloping {fuel : Nat} (ih : EndsWithin before? le P fuel) (h : m.Valid le P)
    (hover : m.isOver = false) (hsize : m.left.length + m.right.length ≤ fuel + 1) :
    Ends le P m (galloping before? (fuel + 1) m) := by
  obtain ⟨hleft, hright⟩ := ne_nil_of_not_isOver hover
  obtain ⟨b, bs, hbs⟩ := List.exists_cons_of_ne_nil hright
  obtain ⟨lefts, hlefts, hwins, hrest⟩ := exists_leftWins hord h hleft hbs
  simp only [galloping, hlefts, Option.bind_eq_bind, Option.bind_some, pure]
  -- The left run has won as often as it can: what is left of it goes after `b`.
  have hvalid := h.takeLeft_of_wins hord hbs hwins
  refine (Ends.of_isOver hvalid fun hnot => ?_).of_perm (all_takeLeft_perm m lefts)
  obtain ⟨a, as, has⟩ := List.exists_cons_of_ne_nil (ne_nil_of_not_isOver hnot).1
  have hba : directed m.fromEnd le b a = true := by
    refine hrest a ?_
    rw [show m.left.drop lefts = a :: as from has]
    exact List.mem_cons_self
  have hvalid := hvalid.takeRight_one hord has hbs hba
  refine (Ends.of_isOver hvalid fun hnot => ?_).of_perm (all_takeRight_perm _ 1)
  obtain ⟨rights, hrights, hwins, hrest⟩ :=
    exists_rightWins hord hvalid (ne_nil_of_not_isOver hnot).2 has
  simp only [hrights, Option.bind_some]
  -- The right run has, too: what is left of it goes after `a`.
  have hvalid := hvalid.takeRight_of_wins hord has hwins
  refine (Ends.of_isOver hvalid fun hnot => ?_).of_perm (all_takeRight_perm _ rights)
  obtain ⟨c, cs, hcs⟩ := List.exists_cons_of_ne_nil (ne_nil_of_not_isOver hnot).2
  have hac : directed m.fromEnd le a c = true := by
    refine hrest c ?_
    rw [show ((m.takeLeft lefts).takeRight 1).right.drop rights = c :: cs from hcs]
    exact List.mem_cons_self
  have hvalid := hvalid.takeLeft_one hord has hcs hac
  refine (Ends.of_isOver hvalid fun hnot => ?_).of_perm (all_takeLeft_perm _ 1)
  refine ih.round hvalid hnot ?_ _ _ _
  have hlength := congrArg List.length hbs
  simp only [Merge.takeLeft, Merge.takeRight, List.length_drop, List.length_cons] at hlength ⊢
  omega

/-- Each round of a merge takes some items. -/
theorem endsWithin (fuel : Nat) : EndsWithin before? le P fuel := by
  induction fuel with
  | zero =>
      intro m _ hover hsize
      have hpos := List.length_pos_iff.mpr (ne_nil_of_not_isOver hover).1
      omega
  | succ fuel ih =>
      intro m h hover hsize
      exact ⟨ends_stepwise hord ih h hover hsize, ends_galloping hord ih h hover hsize⟩

/-- A merge ends when the last of the left items, or the first of the right ones, is
the one to start with. -/
theorem ends_run {v w : α} {lefts rights : List α} (h : m.Valid le P)
    (hleft : m.left = v :: lefts) (hright : m.right = w :: rights) (hwv : le w v = true) :
    Ends le P m (m.run? before?) := by
  have hends : ∀ n : Merge α, n.Valid le P → Ends le P n (if n.isOver = true then some n
      else stepwise before? 0 0 (n.left.length + n.right.length) n) := fun n hn =>
    .of_isOver hn fun hover => ((endsWithin hord _) n hn hover (Nat.le_refl _)).1 0 0
  rw [run?]
  cases hend : m.fromEnd with
  | false =>
      refine (hends _ (h.takeRight_one hord hleft hright ?_)).of_perm (all_takeRight_perm m 1)
      simpa [directed, hend] using hwv
  | true =>
      refine (hends _ (h.takeLeft_one hord hleft hright ?_)).of_perm (all_takeLeft_perm m 1)
      simpa [directed, hend] using hwv

end Order
end Merge
end TerseSchema.Sorting
