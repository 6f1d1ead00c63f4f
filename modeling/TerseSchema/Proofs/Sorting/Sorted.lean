import TerseSchema.Proofs.Sorting.Merging
/-!
# Lists in order

Where any two items can be put in order, sorting succeeds: it yields the same items in
order. The runs that wait for being merged always hold all items seen so far, and there are
no more of them than items.
-/

namespace TerseSchema.Sorting

variable {α β γ : Type} {before? : Order α} {le : α → α → Bool} {P : α → Prop}

/-! ## Steps that succeed -/

/-- A step succeeds whatever the patience, with a result that satisfies `Q`. -/
def Yields (step : Sorter β) (Q : β → Prop) : Prop :=
  ∀ patience, ∃ out after, step patience = some (out, after) ∧ Q out

theorem yields_pure {Q : β → Prop} {out : β} (h : Q out) : Yields (pure out) Q :=
  fun patience => ⟨out, patience, rfl, h⟩

theorem Yields.bind {Q : β → Prop} {R : γ → Prop} {step : Sorter β} {next : β → Sorter γ}
    (h : Yields step Q) (hnext : ∀ out, Q out → Yields (next out) R) :
    Yields (step >>= next) R := by
  intro patience
  obtain ⟨out, after, hstep, hout⟩ := h patience
  obtain ⟨last, final, hlast, hR⟩ := hnext out hout after
  refine ⟨last, final, ?_, hR⟩
  rw [← hlast]
  exact (congrArg (Option.bind · _) hstep).trans rfl

theorem yields_liftM {Q : β → Prop} {step : Option β} {out : β} (h : step = some out)
    (hout : Q out) : Yields (liftM step) Q := by
  intro patience
  exact ⟨out, patience, by rw [h]; rfl, hout⟩

theorem Yields.imp {Q R : β → Prop} {step : Sorter β} (h : Yields step Q)
    (himp : ∀ out, Q out → R out) : Yields step R := by
  intro patience
  obtain ⟨out, after, hstep, hout⟩ := h patience
  exact ⟨out, after, hstep, himp out hout⟩

/-! ## Neighbouring runs -/

section Order

variable (hord : Decides before? le P)

omit hord in
theorem IsRun.between {head middle tail a b : List α} (hl : IsRun false le P (head ++ a))
    (hr : IsRun false le P (b ++ tail)) (hmiddle : IsRun false le P middle)
    (hperm : middle.Perm (a ++ b)) (hhead : ∀ v ∈ head, ∀ w ∈ b ++ tail, le v w = true)
    (htail : ∀ v ∈ a, ∀ w ∈ tail, le v w = true) :
    IsRun false le P (head ++ middle ++ tail) := by
  have hleft := List.pairwise_append.mp hl.sorted
  have hright := List.pairwise_append.mp hr.sorted
  refine ((hl.sublist (List.sublist_append_left head a)).append hmiddle ?_).append
    (hr.sublist (List.sublist_append_right b tail)) ?_
  · intro v hv w hw
    rcases List.mem_append.mp (hperm.subset hw) with hw | hw
    · exact hleft.2.2 v hv w hw
    · exact hhead v hv w (List.mem_append_left tail hw)
  · intro v hv w hw
    rcases List.mem_append.mp hv with hv | hv
    · exact hhead v hv w (List.mem_append_right b hw)
    · rcases List.mem_append.mp (hperm.subset hv) with hv | hv
      · exact htail v hv w hw
      · exact hright.2.2 v hv w hw

include hord

theorem IsRun.le_getLast {l : List α} {v w : α} (hl : IsRun false le P l)
    (hw : l.getLast? = some w) (hv : v ∈ l) : le v w = true := by
  obtain ⟨init, rfl⟩ := List.getLast?_eq_some_iff.mp hw
  rcases List.mem_append.mp hv with hv | hv
  · exact (List.pairwise_append.mp hl.sorted).2.2 v hv w (by simp)
  · rw [List.mem_singleton] at hv
    rw [hv]
    exact (hord.total w w).elim id id

/-- A merge from the starts or from the ends, of runs of which some item of the right one comes
first and some item of the left one last. -/
theorem exists_run {a b : List α} {v w : α} (ha : IsRun false le P a) (hb : IsRun false le P b)
    (hv : a.getLast? = some v) (hw : b.head? = some w) (hfirst : ∀ u ∈ a, le w u = true)
    (hlast : ∀ u ∈ b, le u v = true) (fromEnd : Bool) (patience : Nat) :
    ∃ n : Merge α,
      Merge.run? before? (if fromEnd then ⟨fromEnd, a.reverse, b.reverse, [], patience⟩
        else ⟨fromEnd, a, b, [], patience⟩) = some n ∧
      IsRun false le P n.items ∧ n.items.Perm (a ++ b) := by
  have hends : ∀ {m : Merge α}, Merge.Ends le P m (m.run? before?) → m.all.Perm (a ++ b) →
      ∃ n, m.run? before? = some n ∧ IsRun false le P n.items ∧ n.items.Perm (a ++ b) := by
    rintro m ⟨n, hn, hvalid, hover, hperm⟩ hall
    exact ⟨n, hn, hvalid.isRun_items hover, n.items_perm_all.trans (hperm.trans hall)⟩
  cases fromEnd with
  | false =>
      obtain ⟨bs, rfl⟩ := List.head?_eq_some_iff.mp hw
      obtain ⟨u, as, rfl⟩ := List.exists_cons_of_ne_nil
        (List.ne_nil_of_mem (List.mem_of_getLast? hv))
      refine hends (Merge.ends_run hord ⟨⟨.nil, ha, hb, by simp, by simp⟩, ?_⟩ rfl rfl
        (hfirst u (by simp))) (.refl _)
      intro x hx
      obtain rfl : v = x := by simpa [Merge.kept, hv] using hx
      exact hlast
  | true =>
      have harev : a.reverse.head? = some v := by rw [List.head?_reverse, hv]
      obtain ⟨as, has⟩ := List.head?_eq_some_iff.mp harev
      have hne : b.reverse ≠ [] := by
        intro hnil
        simp [List.reverse_eq_nil_iff.mp hnil] at hw
      obtain ⟨u, bs, hbs⟩ := List.exists_cons_of_ne_nil hne
      have hu : u ∈ b := List.mem_reverse.mp (by simp [hbs])
      refine hends (Merge.ends_run hord ⟨⟨.nil, ha.reverse, hb.reverse, by simp, by simp⟩, ?_⟩
        has hbs (hlast u hu)) ?_
      · intro x hx
        obtain rfl : w = x := by simpa [Merge.kept, hw] using hx
        intro y hy
        exact hfirst y (by simpa [Merge.other] using hy)
      · exact (List.reverse_perm a).append (List.reverse_perm b)

/-- What stays at the start of the left run and at the end of the right one is
no part of the merge. -/
theorem exists_middle {left rest : List α} {first last : α} {start stop : Nat}
    (hl : IsRun false le P left) (hr : IsRun false le P (first :: rest))
    (hstart : Parts left (le · first) start) (hlast : (left.drop start).getLast? = some last)
    (hstop : Parts (first :: rest) (fun w => !le last w) stop) (patience : Nat) :
    ∃ out after, (if stop = 0 then
          some (left.take start ++ left.drop start ++ (first :: rest).drop stop, patience)
        else (Merge.run? before?
          (if ((first :: rest).take stop).length < (left.drop start).length then
            ⟨decide (((first :: rest).take stop).length < (left.drop start).length),
              (left.drop start).reverse, ((first :: rest).take stop).reverse, [], patience⟩
          else ⟨decide (((first :: rest).take stop).length < (left.drop start).length),
              left.drop start, (first :: rest).take stop, [], patience⟩)).bind
          fun m => some (left.take start ++ m.items ++ (first :: rest).drop stop, m.patience)) =
        some (out, after) ∧
      IsRun false le P out ∧ out.Perm (left ++ first :: rest) := by
  have hleft := List.take_append_drop start left
  have hright := List.take_append_drop stop (first :: rest)
  have hhead : ∀ v ∈ left.take start, ∀ w ∈ first :: rest, le v w = true :=
    fun v hv w hw => hr.directed_of_head hord (hstart.take v hv) hw
  have htolast : ∀ v ∈ left.drop start, le v last = true := by
    intro v hv
    exact (hl.sublist (List.drop_sublist start left)).le_getLast hord hlast hv
  have htail : ∀ v ∈ left.drop start, ∀ w ∈ (first :: rest).drop stop, le v w = true := by
    intro v hv w hw
    exact hord.trans v last w (htolast v hv) (by simpa using hstop.drop w hw)
  have hwhole : ∀ middle, IsRun false le P middle →
      middle.Perm (left.drop start ++ (first :: rest).take stop) →
      IsRun false le P (left.take start ++ middle ++ (first :: rest).drop stop) ∧
      (left.take start ++ middle ++ (first :: rest).drop stop).Perm (left ++ first :: rest) := by
    intro middle hmiddle hperm
    constructor
    · exact IsRun.between (hleft.symm ▸ hl) (hright.symm ▸ hr) hmiddle hperm
        (hright.symm ▸ hhead) htail
    · have hmiddleperm :=
        (hperm.append_left (left.take start)).append_right ((first :: rest).drop stop)
      rwa [← List.append_assoc, hleft, List.append_assoc left, hright] at hmiddleperm
  have hdrop := hl.sublist (List.drop_sublist start left)
  by_cases hzero : stop = 0
  · rw [if_pos hzero]
    obtain ⟨hrun, hperm⟩ := hwhole (left.drop start) hdrop (by simp [hzero])
    exact ⟨_, _, rfl, hrun, hperm⟩
  · obtain ⟨n, hn, hrun, hperm⟩ := @exists_run _ before? _ _ hord (left.drop start)
      ((first :: rest).take stop) last first hdrop (hr.sublist (List.take_sublist _ _)) hlast
      (by rw [List.head?_take, if_neg hzero]; rfl)
        (fun u hu => hord.le_of_not (hstart.drop u hu))
      (fun u hu => hord.le_of_not (by simpa using hstop.take u hu))
      (decide (((first :: rest).take stop).length < (left.drop start).length)) patience
    obtain ⟨hwholerun, hwholeperm⟩ := hwhole n.items hrun hperm
    refine ⟨_, n.patience, ?_, hwholerun, hwholeperm⟩
    simp only [decide_eq_true_eq] at hn
    rw [if_neg hzero, hn, Option.bind_some]

theorem yields_mergeRuns {left right : List α} (hl : IsRun false le P left)
    (hr : IsRun false le P right) :
    Yields (mergeRuns before? left right) fun out =>
      IsRun false le P out ∧ out.Perm (left ++ right) := by
  intro patience
  cases right with
  | nil => exact ⟨left, patience, rfl, hl, by simp⟩
  | cons first rest =>
      have hfirst : P first := hr.within first (by simp)
      obtain ⟨start, hstart, hparts⟩ : ∃ k,
          gallop (isUpTo before? left.toArray first) left.length 0 = some k ∧
            Parts left (le · first) k := by
        cases left with
        | nil => exact ⟨0, rfl, by simp, by simp, by simp⟩
        | cons v l => exact exists_gallop_isUpTo hord hl hfirst (by simp)
      have hhead : ∀ v ∈ left.take start, ∀ w ∈ first :: rest, le v w = true :=
        fun v hv w hw => hr.directed_of_head hord (hparts.take v hv) hw
      cases hlast : (left.drop start).getLast? with
      | none =>
          have htake : left.take start = left := by
            have hsplit := List.take_append_drop start left
            rwa [List.getLast?_eq_none_iff.mp hlast, List.append_nil] at hsplit
          rw [htake] at hhead
          refine ⟨left ++ first :: rest, patience, ?_, hl.append hr hhead, .refl _⟩
          simp only [mergeRuns, hstart, Option.bind_eq_bind, Option.bind_some,
            List.splitAt_eq, hlast, htake]
          rfl
      | some last =>
          have hmem : last ∈ left := List.mem_of_mem_drop (List.mem_of_getLast? hlast)
          obtain ⟨stop, hstop, hrparts⟩ :=
            @exists_gallop_isBelow _ _ _ _ (first :: rest) last hord hr
              (hl.within last hmem) ((first :: rest).length - 1) (by simp)
          obtain ⟨out, after, hout, hrun, hperm⟩ :=
            exists_middle hord hl hr hparts hlast hrparts patience
          refine ⟨_, after, ?_, hrun, hperm⟩
          simp only [mergeRuns, hstart, Option.bind_eq_bind, Option.bind_some,
            List.splitAt_eq, hlast, hstop]
          exact hout

/-! ## Pending runs -/

omit hord in
/-- Pending runs that together hold the given items. -/
structure Holds (le : α → α → Bool) (P : α → Prop) (items : List α) (most : Nat)
    (pending : List (Pending α)) : Prop where
  runs : ∀ run ∈ pending, IsRun false le P run.items
  perm : (pending.flatMap Pending.items).Perm items
  length_le : pending.length ≤ most

theorem yields_mergeDeeper {items : List α} {most : Nat} (power : Nat) (top : Pending α)
    (rest : List (Pending α)) (h : Holds le P items most (top :: rest)) :
    Yields (mergeDeeper before? power top rest) (Holds le P items most) := by
  induction rest generalizing top with
  | nil =>
      refine yields_pure ⟨?_, ?_, h.length_le⟩
      · simpa using h.runs
      · simpa using h.perm
  | cons next rest ih =>
      have hruns := h.runs
      rw [List.forall_mem_cons, List.forall_mem_cons] at hruns
      rw [mergeDeeper]
      by_cases hpower : power < next.power
      · rw [if_pos hpower]
        refine (yields_mergeRuns hord hruns.2.1 hruns.1).bind fun out hout =>
          ih { next with items := out } ?_
        refine ⟨List.forall_mem_cons.mpr ⟨hout.1, hruns.2.2⟩, ?_, ?_⟩
        · have hperm := hout.2.append_right (rest.flatMap Pending.items)
          refine hperm.trans (List.Perm.trans ?_ h.perm)
          simpa using List.perm_append_comm_assoc next.items top.items
            (rest.flatMap Pending.items)
        · have hlength := h.length_le
          simp only [List.length_cons] at hlength ⊢
          omega
      · rw [if_neg hpower]
        exact yields_pure ⟨List.forall_mem_cons.mpr ⟨hruns.1, List.forall_mem_cons.mpr hruns.2⟩,
          by simpa using h.perm, h.length_le⟩

theorem yields_addRun {items run : List α} {most : Nat} (count : Nat)
    {pending : List (Pending α)} (h : Holds le P items most pending)
    (hrun : IsRun false le P run) :
    Yields (addRun before? count pending run) (Holds le P (items ++ run) (most + 1)) := by
  cases pending with
  | nil =>
      refine yields_pure ⟨by simpa using hrun, ?_, by simp⟩
      obtain rfl : items = [] := h.perm.symm.eq_nil
      simp
  | cons top rest =>
      rw [addRun]
      refine (yields_mergeDeeper hord _ top rest h).bind fun merged hmerged => yields_pure ?_
      refine ⟨List.forall_mem_cons.mpr ⟨hrun, hmerged.runs⟩, ?_, ?_⟩
      · exact (hmerged.perm.append_left run).trans List.perm_append_comm
      · have hlength := hmerged.length_le
        simp only [List.length_cons]
        omega

/-- Each round finds a run, so that there is fuel for as many items as there are. -/
theorem yields_pendingRuns {count least : Nat} (fuel : Nat) {pending : List (Pending α)}
    {seen items : List α} {most : Nat} (h : Holds le P seen most pending)
    (hitems : ∀ v ∈ items, P v) (hfuel : items.length ≤ fuel) :
    Yields (pendingRuns before? count least fuel pending items)
      (Holds le P (seen ++ items) (most + items.length)) := by
  induction fuel generalizing pending seen items most with
  | zero =>
      obtain rfl : items = [] := List.eq_nil_of_length_eq_zero (by omega)
      exact yields_pure (by simpa using h)
  | succ fuel ih =>
      by_cases hempty : items = []
      · subst hempty
        exact yields_pure (by simpa using h)
      · obtain ⟨run, rest, hfilled, hrun, hperm, hne⟩ := exists_filledRun hord least hitems
        have hlength := hperm.length_eq
        have hpos := List.length_pos_iff.mpr (hne hempty)
        rw [List.length_append] at hlength
        have hrest : ∀ v ∈ rest, P v :=
          fun v hv => hitems v (hperm.subset (List.mem_append_right run hv))
        have hnot : ¬items.isEmpty = true := by simpa using hempty
        rw [pendingRuns, if_neg hnot]
        refine (yields_liftM (Q := fun out => out = (run, rest)) hfilled rfl).bind ?_
        rintro _ rfl
        refine (yields_addRun hord count h hrun).bind fun next hnext => ?_
        refine (ih hnext hrest (by omega)).imp fun out hout =>
          ⟨hout.runs, hout.perm.trans ?_, ?_⟩
        · rw [List.append_assoc]
          exact hperm.append_left seen
        · have hmost := hout.length_le
          omega

theorem yields_collapse {items : List α} (fuel : Nat) {pending : List (Pending α)}
    (h : Holds le P items (fuel + 1) pending) :
    Yields (collapse before? fuel pending) fun out => IsRun false le P out ∧ out.Perm items := by
  induction fuel generalizing pending with
  | zero =>
      match pending, h with
      | [], h => exact yields_pure ⟨.nil, by simpa using h.perm⟩
      | [top], h => exact yields_pure ⟨h.runs top (by simp), by simpa using h.perm⟩
      | _ :: _ :: _, h => exact absurd h.length_le (by simp)
  | succ fuel ih =>
      match pending, h with
      | [], h => exact yields_pure ⟨.nil, by simpa using h.perm⟩
      | [top], h => exact yields_pure ⟨h.runs top (by simp), by simpa using h.perm⟩
      | [top, next], h =>
          refine (yields_mergeRuns hord (h.runs next (by simp)) (h.runs top (by simp))).imp ?_
          rintro out ⟨hrun, hperm⟩
          refine ⟨hrun, hperm.trans (List.perm_append_comm.trans ?_)⟩
          simpa using h.perm
      | top :: next :: far :: rest, h =>
          have hruns := h.runs
          simp only [List.forall_mem_cons] at hruns
          obtain ⟨htop, hnext, hfar, hrest⟩ := hruns
          have hlength := h.length_le
          simp only [List.length_cons] at hlength
          rw [collapse]
          by_cases hlonger : far.items.length < top.items.length
          · rw [if_pos hlonger]
            refine (yields_mergeRuns hord hfar hnext).bind fun out hout => ih ⟨?_, ?_, ?_⟩
            · simpa only [List.forall_mem_cons] using ⟨htop, hout.1, hrest⟩
            · refine List.Perm.trans ?_ h.perm
              have hperm :=
                (hout.2.trans List.perm_append_comm).append_right (rest.flatMap Pending.items)
              simpa using hperm.append_left top.items
            · simp only [List.length_cons]
              omega
          · rw [if_neg hlonger]
            refine (yields_mergeRuns hord hnext htop).bind fun out hout => ih ⟨?_, ?_, ?_⟩
            · simpa only [List.forall_mem_cons] using ⟨hout.1, hfar, hrest⟩
            · refine List.Perm.trans ?_ h.perm
              have hperm := (hout.2.trans List.perm_append_comm).append_right
                (far.items ++ rest.flatMap Pending.items)
              simpa using hperm
            · simp only [List.length_cons]
              omega

/-! ## Lists -/

/-- Items that can be put in order are sorted. -/
theorem exists_sorted {items : List α} (hitems : ∀ v ∈ items, P v) :
    ∃ out, sorted? before? items = some out ∧ out.Perm items ∧
      out.Pairwise fun v w => le v w = true := by
  have hempty : Holds le P ([] : List α) 0 [] := ⟨by simp, by simp, by simp⟩
  have hpending : Yields (pendingRuns before? items.length (leastRun items.length 0 items.length)
      items.length [] items) (Holds le P ([] ++ items) (0 + items.length)) :=
    yields_pendingRuns hord items.length hempty hitems (Nat.le_refl _)
  have hsort := hpending.bind fun pending h => yields_collapse hord items.length
    ⟨h.runs, h.perm, by have hlength := h.length_le; omega⟩
  obtain ⟨out, after, hout, hrun, hperm⟩ := hsort Merge.worthGalloping
  refine ⟨out, ?_, by simpa using hperm, hrun.sorted⟩
  exact congrArg (Option.map Prod.fst) hout

end Order
end TerseSchema.Sorting
