import Mathlib.Algebra.GroupWithZero.Nat
import Mathlib.Data.List.Perm.Basic
import TerseSchema.Proofs.Outcome
import TerseSchema.Proofs.Yaml.Nodes
import TerseSchema.Yaml.Node.Merge
/-!
# Merging and its end

Mappings that ask for one another, even for themselves, are merged to an end: each step takes a
merge key away, and none comes back. What suits its tag before suits it afterwards.
-/

namespace TerseSchema.Yaml

abbrev Fault.IsMalformed (fault : Fault) : Prop := fault = .malformed

/-- Whether a node suits its tag: if it is a scalar, its text has a value or is malformed, and a
mapping is not tagged as a scalar. -/
def Node.SuitsTag (node : Node) : Prop :=
  match node.content with
  | .scalar text =>
    ∀ mark fault, Yaml.scalarValue mark node.tag text = .error fault → fault.IsMalformed
  | .sequence _ => True
  | .mapping _ => node.tag ∉ valueTag :: scalarTags

variable {isMerge isMapping : NodeId → Bool} {n : Nat} {nodes : Nodes} {id : NodeId}

/-! ## Counting merge keys -/

def NodeContent.entries? : NodeContent → Option (List NodeEntry)
  | .mapping entries => some entries
  | _ => none

theorem entries?_eq_bind (nodes : Nodes) (id : NodeId) :
    nodes.entries? id = nodes[id]?.bind fun node => node.content.entries? := by
  rw [Nodes.entries?]
  rcases nodes[id]? with _ | ⟨tag, _ | _ | _⟩ <;> rfl

theorem entries?_of_node {node : Node} (h : nodes[id]? = some node) :
    nodes.entries? id = node.content.entries? := by
  rw [entries?_eq_bind, h, Option.bind_some]

def NodeContent.mergeCount (isMerge : NodeId → Bool) (content : NodeContent) : Nat :=
  (content.entries?.getD []).countP fun e => isMerge e.1

def Nodes.mergeCount (isMerge : NodeId → Bool) (nodes : Nodes) : Nat :=
  (nodes.toList.map fun node => node.content.mergeCount isMerge).sum

theorem mergeCount_modify {node : Node} (hnode : nodes[id]? = some node) (f : Node → Node) :
    Nodes.mergeCount isMerge (nodes.modify id f) + node.content.mergeCount isMerge =
      Nodes.mergeCount isMerge nodes + (f node).content.mergeCount isMerge := by
  obtain ⟨hlt, hnode⟩ := Array.getElem?_eq_some_iff.mp hnode
  have hlt : id < nodes.toList.length := hlt
  have hget : nodes.toList[id] = node := hnode
  have hafter := ((List.set_perm_cons_eraseIdx hlt (f node)).map
    fun node => node.content.mergeCount isMerge).sum_nat
  have hbefore := ((List.getElem_cons_eraseIdx_perm hlt).map
    fun node => node.content.mergeCount isMerge).sum_nat
  simp only [List.map_cons, List.sum_cons, hget] at hafter hbefore
  simp only [Nodes.mergeCount, Array.toList_modify, List.modify_eq_set_get f hlt,
    List.get_eq_getElem, hget, hafter]
  omega

theorem mergeCount_le {node : Node} (hnode : nodes[id]? = some node) :
    node.content.mergeCount isMerge ≤ Nodes.mergeCount isMerge nodes := by
  have hempty := @mergeCount_modify isMerge nodes id node hnode fun node =>
    { node with content := .sequence [] }
  exact Nat.le.intro ((Nat.add_comm _ _).trans hempty)

theorem sum_le_foldl {α : Type} {f : Nat → α → Nat} {g : α → Nat} (h : ∀ n a, n + g a ≤ f n a)
    (n : Nat) (xs : List α) : n + (xs.map g).sum ≤ xs.foldl f n := by
  induction xs generalizing n with
  | nil => exact Nat.le_refl n
  | cons a xs ih =>
      rw [List.map_cons, List.sum_cons, ← Nat.add_assoc, List.foldl_cons]
      exact Nat.le_trans (Nat.add_le_add_right (h n a) _) (ih (f n a))

theorem mergeCount_le_entryCount (isMerge : NodeId → Bool) (nodes : Nodes) :
    Nodes.mergeCount isMerge nodes ≤ nodes.entryCount := by
  rw [Nodes.entryCount, ← Array.foldl_toList, Nodes.mergeCount, ← Nat.zero_add (List.sum _)]
  refine sum_le_foldl (fun n node => ?_) 0 nodes.toList
  obtain ⟨tag, content⟩ := node
  cases content with
  | scalar text => exact Nat.le_refl n
  | sequence ids => exact Nat.le_refl n
  | mapping entries => exact Nat.add_le_add_left List.countP_le_length n

/-! ## What merging keeps -/

/-- Whether all nodes suit their tags and hold at most so many merge keys, where it is known of
each node whether it is a merge key, and whether it is a mapping. -/
structure Mergeable (isMerge isMapping : NodeId → Bool) (n : Nat) (nodes : Nodes) : Prop where
  suits : ∀ (id : NodeId) (node : Node), nodes[id]? = some node → node.SuitsTag
  mergeCount_le : Nodes.mergeCount isMerge nodes ≤ n
  isMerge : ∀ id, nodes.hasTag id mergeTag = isMerge id
  isMapping : ∀ id, (nodes.entries? id).isSome = isMapping id

def Unmerged (isMerge : NodeId → Bool) (entries : List NodeEntry) : Prop :=
  ∀ e ∈ entries, isMerge e.1 = false

namespace Mergeable

variable {entries : List NodeEntry}

theorem mono {m : Nat} (h : Mergeable isMerge isMapping n nodes) (hle : n ≤ m) :
    Mergeable isMerge isMapping m nodes :=
  { h with mergeCount_le := Nat.le_trans h.mergeCount_le hle }

theorem exists_entries (h : Mergeable isMerge isMapping n nodes) (hid : isMapping id = true) :
    ∃ tag entries, nodes[id]? = some ⟨tag, .mapping entries⟩ := by
  have hsome := (h.isMapping id).trans hid
  rw [Nodes.entries?] at hsome
  split at hsome
  · next tag entries hnode => exact ⟨tag, entries, hnode⟩
  · cases hsome

/-- A change of one node, which leaves alone whether it is a merge key and
whether it is a mapping. -/
theorem modify {node : Node} {f : Node → Node} {m : Nat}
    (h : Mergeable isMerge isMapping n nodes) (hnode : nodes[id]? = some node)
    (hsuits : (f node).SuitsTag) (htag : (f node).tag = mergeTag ↔ node.tag = mergeTag)
    (hentries : (f node).content.entries?.isSome = node.content.entries?.isSome)
    (hcount : (f node).content.mergeCount isMerge + n ≤ node.content.mergeCount isMerge + m) :
    Mergeable isMerge isMapping m (nodes.modify id f) := by
  have hself : (nodes.modify id f)[id]? = some (f node) := by
    rw [Array.getElem?_modify, if_pos rfl, hnode]
    rfl
  have hother {i : NodeId} (hi : i ≠ id) : (nodes.modify id f)[i]? = nodes[i]? := by
    rw [Array.getElem?_modify, if_neg (Ne.symm hi)]
  refine ⟨fun i other hi => ?_, ?_, fun i => ?_, fun i => ?_⟩
  · by_cases hid : i = id
    · rw [hid, hself] at hi
      exact Option.some.inj hi ▸ hsuits
    · exact h.suits i other (hother hid ▸ hi)
  · have hmodify := @mergeCount_modify isMerge nodes id node hnode f
    have hle := h.mergeCount_le
    omega
  · rw [← h.isMerge i]
    by_cases hid : i = id
    · rw [hid, Nodes.hasTag, Nodes.hasTag, hself, hnode, Option.any_some, Option.any_some,
        decide_eq_decide, htag]
    · rw [Nodes.hasTag, Nodes.hasTag, hother hid]
  · rw [← h.isMapping i]
    by_cases hid : i = id
    · rw [hid, entries?_of_node hself, entries?_of_node hnode, hentries]
    · rw [Nodes.entries?, Nodes.entries?, hother hid]

/-- Other entries for a mapping. -/
theorem setEntries {tag : String} {others : List NodeEntry} {m : Nat}
    (h : Mergeable isMerge isMapping n nodes)
    (hnode : nodes[id]? = some ⟨tag, .mapping entries⟩)
    (hcount : others.countP (fun e => isMerge e.1) + n ≤
      entries.countP (fun e => isMerge e.1) + m) :
    Mergeable isMerge isMapping m (nodes.setContent id (.mapping others)) :=
  h.modify hnode (h.suits id _ hnode :) Iff.rfl rfl hcount

/-- A default key becomes a text. -/
theorem setTag (h : Mergeable isMerge isMapping n nodes)
    (hvalue : nodes.hasTag id valueTag = true) :
    Mergeable isMerge isMapping n (nodes.setTag id strTag) := by
  obtain ⟨⟨tag, content⟩, hnode, htag⟩ :
      ∃ node, nodes[id]? = some node ∧ node.tag = valueTag := by
    simpa [Nodes.hasTag, Option.any_eq_true] using hvalue
  obtain rfl : tag = valueTag := htag
  refine h.modify hnode ?_ (show strTag = mergeTag ↔ valueTag = mergeTag by decide)
    rfl (Nat.le_refl _)
  cases content with
  | scalar text => exact fun mark fault hfault => nomatch hfault
  | sequence ids => trivial
  | mapping entries => exact absurd List.mem_cons_self (h.suits id _ hnode)

end Mergeable

/-! ## Steps of merging -/

/-- A merge key is taken away, if there is one. -/
theorem ends_takeMerge? (hid : isMapping id = true) :
    Ends (Mergeable isMerge isMapping n) Fault.IsMalformed
    (fun source nodes => match source with
      | none =>
        Mergeable isMerge isMapping n nodes ∧ Unmerged isMerge ((nodes.entries? id).getD [])
      | some _ =>
        ∃ m, n = m + 1 ∧ Mergeable isMerge isMapping m nodes) (Merging.takeMerge? id) := by
  intro nodes h
  obtain ⟨tag, entries, hnode⟩ := h.exists_entries hid
  have hentries : (nodes.entries? id).getD [] = entries := by rw [entries?_of_node hnode]; rfl
  rw [Merging.takeMerge?, hentries, Merging.firstMerge?]
  cases hfind : entries.zipIdx.find? fun e => nodes.hasTag e.1.1 mergeTag with
  | none =>
      refine .ok ⟨h, ?_⟩
      rw [hentries]
      intro e he
      obtain ⟨i, hi⟩ := List.mem_iff_getElem?.mp he
      have hnone := List.find?_eq_none.mp hfind (e, i) (List.mk_mem_zipIdx_iff_getElem?.mpr hi)
      rwa [Bool.not_eq_true, h.isMerge] at hnone
  | some found =>
      obtain ⟨e, i⟩ := found
      have htag : nodes.hasTag e.1 mergeTag = true := by simpa using List.find?_some hfind
      obtain ⟨hi, he⟩ := List.mem_zipIdx' (List.mem_of_find?_eq_some hfind)
      have hcount := (List.getElem_cons_eraseIdx_perm hi).countP_eq fun e => isMerge e.1
      rw [← he, List.countP_cons_of_pos (h.isMerge e.1 ▸ htag)] at hcount
      have hle : entries.countP (fun e => isMerge e.1) ≤ n :=
        Nat.le_trans (@mergeCount_le isMerge nodes id _ hnode) h.mergeCount_le
      obtain ⟨m, rfl⟩ : ∃ m, n = m + 1 := by
        refine Nat.exists_eq_add_one_of_ne_zero (Nat.ne_of_gt (Nat.lt_of_lt_of_le ?_ hle))
        exact hcount ▸ Nat.succ_pos _
      refine .ok ⟨m, rfl, h.setEntries hnode ?_⟩
      show (entries.eraseIdx i).countP _ + (m + 1) ≤ _
      omega

theorem Mergeable.setTags (h : Mergeable isMerge isMapping n nodes) (entries : List NodeEntry) :
    Mergeable isMerge isMapping n (entries.foldl
      (fun nodes e => if Nodes.hasTag nodes e.1 valueTag then nodes.setTag e.1 strTag
        else nodes) nodes) := by
  induction entries generalizing nodes with
  | nil => exact h
  | cons e entries ih =>
      rw [List.foldl_cons]
      split
      · next hvalue => exact ih (h.setTag hvalue)
      · exact ih h

theorem entries?_setTag (i : NodeId) (tag : String) :
    Nodes.entries? (Nodes.setTag nodes i tag) id = nodes.entries? id := by
  rw [entries?_eq_bind, entries?_eq_bind, Nodes.setTag, Array.getElem?_modify]
  split
  · cases nodes[id]? <;> rfl
  · rfl

theorem entries?_setTags (entries : List NodeEntry) : Nodes.entries? (entries.foldl
    (fun nodes e => if Nodes.hasTag nodes e.1 valueTag then nodes.setTag e.1 strTag
      else nodes) nodes) id =
      nodes.entries? id := by
  induction entries generalizing nodes with
  | nil => rfl
  | cons e entries ih =>
      rw [List.foldl_cons, ih]
      split
      · exact entries?_setTag e.1 strTag
      · rfl

theorem countP_of_unmerged {entries : List NodeEntry} (h : Unmerged isMerge entries) :
    entries.countP (fun e => isMerge e.1) = 0 :=
  List.countP_eq_zero.mpr fun e he => by rw [h e he]; exact Bool.false_ne_true

/-- Entries without a merge key are put before those of a mapping that has none left. -/
theorem ends_prepend (hid : isMapping id = true) {merged : List NodeEntry}
    (hmerged : Unmerged isMerge merged) :
    Ends (fun nodes => Mergeable isMerge isMapping n nodes ∧
      Unmerged isMerge ((nodes.entries? id).getD []))
      Fault.IsMalformed
      (fun _ nodes => Mergeable isMerge isMapping n nodes ∧
        Unmerged isMerge ((nodes.entries? id).getD []))
      (Merging.prepend id merged) := by
  intro nodes ⟨h, hown⟩
  have htagged := h.setTags ((nodes.entries? id).getD [])
  have hentries := @entries?_setTags nodes id ((nodes.entries? id).getD [])
  obtain ⟨tag, own, hnode⟩ := htagged.exists_entries hid
  rw [entries?_of_node hnode] at hentries
  have hgiven : (nodes.entries? id).getD [] = own := by
    rw [← hentries]
    rfl
  rw [hgiven] at hown htagged hnode
  rw [Merging.prepend, hgiven]
  have hall : Unmerged isMerge (merged ++ own) := List.forall_mem_append.mpr ⟨hmerged, hown⟩
  refine .ok ⟨htagged.setEntries hnode ?_, ?_⟩
  · rw [countP_of_unmerged hall]
    exact Nat.add_le_add_right (Nat.zero_le _) n
  · rw [entries?_of_node (getElem?_setContent_self hnode)]
    exact hall

/-! ## Merging to an end -/

/-- What is to be shown of merging, into a mapping and of its sources, as
each leads to the other. -/
structure MergingEnds (isMerge isMapping : NodeId → Bool) (fuel : Nat) : Prop where
  mergeInto : ∀ n id, 2 * n + 2 ≤ fuel → Ends (Mergeable isMerge isMapping n) Fault.IsMalformed
    (fun entries nodes => Mergeable isMerge isMapping n nodes ∧ Unmerged isMerge entries)
      (Merging.mergeInto id fuel)
  mergedEntries : ∀ n id, 2 * n + 1 ≤ fuel → isMapping id = true →
    Ends (Mergeable isMerge isMapping n) Fault.IsMalformed
    (fun entries nodes =>
      (Mergeable isMerge isMapping n nodes ∧ Unmerged isMerge ((nodes.entries? id).getD [])) ∧
      Unmerged isMerge entries) (Merging.mergedEntries id fuel)

namespace MergingEnds

variable {fuel : Nat}

theorem mergeInto_succ (h : MergingEnds isMerge isMapping fuel) (hfuel : 2 * n + 2 ≤ fuel + 1) :
    Ends (Mergeable isMerge isMapping n) Fault.IsMalformed
      (fun entries nodes => Mergeable isMerge isMapping n nodes ∧ Unmerged isMerge entries)
      (Merging.mergeInto id (fuel + 1)) := by
  rw [Merging.mergeInto]
  refine Ends.get.bind fun nodes => ?_
  split
  · exact .throw_bind (show Fault.malformed.IsMalformed from rfl) _
  · next hsome =>
      rintro _ ⟨rfl, hnodes⟩
      have hid : isMapping id = true := by
        rw [← hnodes.isMapping id, Option.isSome_iff_ne_none, ne_eq, ← Option.isNone_iff_eq_none]
        exact hsome
      refine Ends.bind (h.mergedEntries n id (by omega) hid) (fun merged => ?_) nodes hnodes
      rintro after ⟨hafter, hmerged⟩
      refine (ends_prepend hid hmerged).bind (fun _ => ?_) after hafter
      refine Ends.get.bind fun final => .pure ?_
      rintro _ ⟨rfl, hfinal⟩
      exact hfinal

theorem mergedEntries_succ (h : MergingEnds isMerge isMapping fuel)
    (hfuel : 2 * n + 1 ≤ fuel + 1) (hid : isMapping id = true) :
    Ends (Mergeable isMerge isMapping n) Fault.IsMalformed
      (fun entries nodes =>
        (Mergeable isMerge isMapping n nodes ∧ Unmerged isMerge ((nodes.entries? id).getD [])) ∧
        Unmerged isMerge entries) (Merging.mergedEntries id (fuel + 1)) := by
  rw [Merging.mergedEntries]
  refine (ends_takeMerge? hid).bind fun source => ?_
  cases source with
  | none => exact .pure fun nodes hnodes => ⟨hnodes, by simp [Unmerged]⟩
  | some source =>
      rintro nodes ⟨m, rfl, hnodes⟩
      have hsource (i : NodeId) := h.mergeInto m i (by omega)
      have hrest {entries : List NodeEntry} (hentries : Unmerged isMerge entries) :
          Ends (Mergeable isMerge isMapping m) Fault.IsMalformed
            (fun entries nodes => (Mergeable isMerge isMapping (m + 1) nodes ∧
              Unmerged isMerge ((nodes.entries? id).getD [])) ∧ Unmerged isMerge entries)
            (do return entries ++ (← Merging.mergedEntries id fuel)) := by
        refine (h.mergedEntries m id (by omega) hid).bind fun more => .pure ?_
        rintro after ⟨⟨hafter, hown⟩, hmore⟩
        exact ⟨⟨hafter.mono (Nat.le_succ m), hown⟩, List.forall_mem_append.mpr ⟨hentries, hmore⟩⟩
      refine Ends.get.bind (fun found => ?_) nodes hnodes
      rintro _ ⟨rfl, hfound⟩
      split
      · next items _ =>
          refine Ends.bind (.mapM fun item _ => hsource item) (fun parts => ?_) found hfound
          rintro after ⟨hafter, hparts⟩
          refine hrest (fun e he => ?_) after hafter
          obtain ⟨part, hpart, he⟩ := List.mem_flatten.mp he
          exact hparts part (List.mem_reverse.mp hpart) e he
      · refine Ends.bind (hsource source) (fun entries => ?_) found hfound
        rintro after ⟨hafter, hentries⟩
        exact hrest hentries after hafter

end MergingEnds

/-- With twice as much fuel as there are merge keys, and a little more, merging
never runs out of it. -/
theorem mergingEnds (isMerge isMapping : NodeId → Bool) (fuel : Nat) :
    MergingEnds isMerge isMapping fuel := by
  induction fuel with
  | zero =>
    exact ⟨fun n id hfuel => absurd hfuel (by omega), fun n id hfuel => absurd hfuel (by omega)⟩
  | succ fuel ih => exact ⟨fun _ _ => ih.mergeInto_succ, fun _ _ => ih.mergedEntries_succ⟩

end TerseSchema.Yaml
