import TerseSchema.Proofs.Value.Plain
import TerseSchema.Proofs.Yaml.Nodes
import TerseSchema.Yaml.Content.Unfolding
/-!
# Values of documents without cycles

Where what lies in a container comes after it, the containers are all filled in the
end, as the level that is filled comes later and later. The document then has the value
that its root stands for.
-/

namespace TerseSchema.Yaml

variable {nodes : Nodes} {marks : Nat} {id : NodeId} {v : Value} {s t : BuildState}

/-! ## Parts -/

def Nodes.partOf (nodes : Nodes) (marks : Nat) (id : NodeId) : Except Fault Part :=
  match nodes[id]? with
  | none => .error .malformed
  | some node =>
    if Build.collectionTags.contains node.tag then .ok (.container id)
    else (nodes.scalarValue (marks + id) id node).map Part.value

theorem partOf_scalar {tag : String} {text : Text}
    (hnode : nodes[id]? = some ⟨tag, .scalar text⟩) (htag : tag ∈ scalarTags)
    (hvalue : ∀ mark, scalarValue mark tag text = .ok v) :
    nodes.partOf marks id = .ok (.value v) := by
  have hcollection : Build.collectionTags.contains tag = false :=
    (by decide : ∀ tag ∈ scalarTags, Build.collectionTags.contains tag = false) tag htag
  have htext : nodes.defaultText (nodes.size + 1) id = .ok text := by
    rw [Nodes.defaultText, hnode]
  have hscalar : scalarTags.contains tag = true := by simpa using htag
  rw [Nodes.partOf, hnode]
  simp only [hcollection, Bool.false_eq_true, if_false, Nodes.scalarValue, hscalar,
    Bool.not_true, htext, bind, Except.bind, hvalue]
  rfl

theorem partOf_list {ids : List NodeId} (hnode : nodes[id]? = some ⟨seqTag, .sequence ids⟩) :
    nodes.partOf marks id = .ok (.container id) := by
  rw [Nodes.partOf, hnode]
  rfl

theorem partOf_map {entries : List NodeEntry}
    (hnode : nodes[id]? = some ⟨mapTag, .mapping entries⟩) :
    nodes.partOf marks id = .ok (.container id) := by
  rw [Nodes.partOf, hnode]
  rfl

theorem eq_of_partOf_container {i : NodeId} (h : nodes.partOf marks id = .ok (.container i)) :
    i = id := by
  rw [Nodes.partOf] at h
  split at h
  · cases h
  · next node _ =>
      split_ifs at h
      · exact (Part.container.inj (Except.ok.inj h)).symm
      · cases hvalue : nodes.scalarValue (marks + id) id node <;> rw [hvalue] at h <;> cases h

theorem Represents.exists_partOf (h : Represents nodes id v) (marks : Nat) :
    ∃ part, nodes.partOf marks id = .ok part := by
  cases h with
  | scalar hnode htag hvalue => exact ⟨_, partOf_scalar hnode htag hvalue⟩
  | list hnode => exact ⟨_, partOf_list hnode⟩
  | map hnode => exact ⟨_, partOf_map hnode⟩

/-! ## Building -/

/-- Whether a node has been met, and what it has become. -/
def Met (parts : Array (Option Part)) (id : NodeId) (part : Part) : Prop :=
  parts[id]?.join = some part

/-- Whether a container holds what the nodes in it have become. -/
inductive Fills (nodes : Nodes) (parts : Array (Option Part)) (id : NodeId) : Filling → Prop
  | list {ids : List NodeId} {items : List Part}
      (hnode : nodes[id]? = some ⟨seqTag, .sequence ids⟩)
      (hitems : List.Forall₂ (Met parts) ids items) : Fills nodes parts id (.list items)
  | map {entries : List NodeEntry} {es : List (Value × Part)}
      (hnode : nodes[id]? = some ⟨mapTag, .mapping entries⟩)
      (hkeys : List.Forall₂
        (fun i k => ∃ key, nodes[i]? = some ⟨strTag, .scalar key⟩ ∧ k = .text key)
        (entries.map Prod.fst) (es.map Prod.fst))
      (hvalues : List.Forall₂ (Met parts) (entries.map Prod.snd) (es.map Prod.snd)) :
      Fills nodes parts id (.map es)

/-- Whether building goes well: what has been met became what it is to become, and a container
that is not filled is due, or waits. -/
structure Sound (nodes : Nodes) (marks : Nat) (due : List NodeId) (s : BuildState) : Prop where
  nodes_eq : s.nodes = nodes
  marks_eq : s.marks = marks
  parts_size : s.parts.size = nodes.size
  fillings_size : s.fillings.size = nodes.size
  mergeFuel : 2 ≤ s.mergeFuel
  parts : ∀ id part, Met s.parts id part → nodes.partOf marks id = .ok part
  represents : ∀ id ∈ due ++ s.waiting, nodes.partOf marks id = .ok (.container id) ∧
    ∃ v, Represents nodes id v
  filled : ∀ id, Met s.parts id (.container id) → id ∈ due ++ s.waiting ∨
    ∃ filling, s.fillings[id]?.join = some filling ∧ Fills nodes s.parts id filling

/-- Whether one state comes after the other: what was met then is met still, and only given
nodes have come to wait. -/
structure Later (fresh : NodeId → Prop) (s t : BuildState) : Prop where
  parts : ∀ id part, Met s.parts id part → Met t.parts id part
  waiting : ∀ id ∈ t.waiting, id ∈ s.waiting ∨ fresh id

namespace Later

variable {fresh : NodeId → Prop} {u : BuildState}

theorem refl : Later fresh s s := ⟨fun _ _ h => h, fun _ => .inl⟩

theorem trans (h : Later fresh s t) (hafter : Later fresh t u) : Later fresh s u :=
  ⟨fun id part hmet => hafter.parts id part (h.parts id part hmet),
    fun id hid => (hafter.waiting id hid).elim (h.waiting id) .inr⟩

theorem mono {other : NodeId → Prop} (h : Later fresh s t) (hfresh : ∀ id, fresh id → other id) :
    Later other s t :=
  ⟨h.parts, fun id hid => (h.waiting id hid).imp_right (hfresh id)⟩

end Later

theorem Fills.mono {parts others : Array (Option Part)} {filling : Filling}
    (h : Fills nodes parts id filling)
    (hparts : ∀ id part, Met parts id part → Met others id part) :
    Fills nodes others id filling := by
  cases h with
  | list hnode hitems => exact .list hnode (hitems.imp hparts)
  | map hnode hkeys hvalues => exact .map hnode hkeys (hvalues.imp hparts)

variable {due : List NodeId}

theorem met_modify_iff {parts : Array (Option Part)} (hid : id < parts.size) (part : Part)
    {i : NodeId} {other : Part} :
    Met (parts.modify id fun _ => some part) i other ↔
      if i = id then other = part else Met parts i other := by
  rw [Met, Met, Array.getElem?_modify]
  split_ifs with h h' h'
  · subst h
    rw [Array.getElem?_eq_getElem hid]
    simp [eq_comm]
  · exact absurd h.symm h'
  · exact absurd h'.symm h
  · rfl

def waitingAfter (id : NodeId) (waiting : List NodeId) : Part → List NodeId
  | .container _ => id :: waiting
  | .value _ => waiting

theorem part_of_not_met (hs : Sound nodes marks due s) {part : Part}
    (hpart : nodes.partOf marks id = .ok part) (hnone : s.parts[id]?.join = none) :
    Build.part id s = .ok (part, { s with
      parts := s.parts.modify id fun _ => some part
      waiting := waitingAfter id s.waiting part }) := by
  rw [Nodes.partOf] at hpart
  rw [Build.part, hnone, hs.nodes_eq, hs.marks_eq]
  split at hpart
  · cases hpart
  · next node hnode =>
      rw [hnode]
      split_ifs at hpart with hcollection
      · obtain rfl := Except.ok.inj hpart
        simp only [hcollection, if_true]
        rfl
      · cases hvalue : nodes.scalarValue (marks + id) id node with
        | error fault =>
            rw [hvalue] at hpart
            cases hpart
        | ok w =>
            rw [hvalue] at hpart
            obtain rfl := Except.ok.inj hpart
            simp only [hcollection, hvalue]
            rfl

theorem mem_waitingAfter {part : Part} (hpart : nodes.partOf marks id = .ok part) {i : NodeId}
    {waiting : List NodeId} (hi : i ∈ waitingAfter id waiting part) :
    i ∈ waiting ∨ i = id ∧ part = .container id := by
  cases part with
  | value w => exact .inl hi
  | container j =>
      obtain rfl := eq_of_partOf_container hpart
      exact (List.mem_cons.mp hi).symm.imp_right fun hi => ⟨hi, rfl⟩

theorem subset_waitingAfter (id : NodeId) (waiting : List NodeId) (part : Part) :
    waiting ⊆ waitingAfter id waiting part := by
  cases part with
  | value w => exact fun _ hi => hi
  | container j => exact fun _ hi => List.mem_cons_of_mem id hi

theorem Met.modify {parts : Array (Option Part)} {i : NodeId} {other : Part}
    (h : Met parts i other) (hnone : parts[id]?.join = none) (hid : id < parts.size)
    (part : Part) : Met (parts.modify id fun _ => some part) i other := by
  rw [met_modify_iff hid, if_neg]
  · exact h
  · rintro rfl
    rw [Met, hnone] at h
    cases h

/-- The step over a node that is met for the first time. -/
theorem Sound.meet (hs : Sound nodes marks due s) (h : Represents nodes id v) {part : Part}
    (hpart : nodes.partOf marks id = .ok part) (hnone : s.parts[id]?.join = none) :
    Sound nodes marks due { s with
      parts := s.parts.modify id fun _ => some part
      waiting := waitingAfter id s.waiting part } := by
  have hid : id < s.parts.size := hs.parts_size ▸ h.lt_size
  refine { hs with
    parts_size := (Array.size_modify ..).trans hs.parts_size
    parts := fun i other hi => ?_
    represents := fun i hi => ?_
    filled := fun i hi => ?_ }
  · rw [met_modify_iff hid] at hi
    split_ifs at hi with hsame
    · rw [hsame, hi, hpart]
    · exact hs.parts i other hi
  · rcases List.mem_append.mp hi with hi | hi
    · exact hs.represents i (List.mem_append_left _ hi)
    · rcases mem_waitingAfter hpart hi with hi | ⟨rfl, rfl⟩
      · exact hs.represents i (List.mem_append_right _ hi)
      · exact ⟨hpart, v, h⟩
  · rw [met_modify_iff hid] at hi
    split_ifs at hi with hsame
    · rw [← hi, hsame]
      exact .inl (List.mem_append_right due List.mem_cons_self)
    · have hstill : due ++ s.waiting ⊆ due ++ waitingAfter id s.waiting part := fun _ hi =>
        List.mem_append.mpr ((List.mem_append.mp hi).imp_right (subset_waitingAfter id _ part ·))
      rcases hs.filled i hi with hi | ⟨filling, hfilling, hfills⟩
      · exact .inl (hstill hi)
      · exact .inr ⟨filling, hfilling, hfills.mono fun _ _ hmet => hmet.modify hnone hid part⟩

/-- A node is met, and waits to be filled if it is a container that had not been met before. -/
theorem Sound.exists_part (hs : Sound nodes marks due s) (h : Represents nodes id v) : ∃ part t,
    Build.part id s = .ok (part, t) ∧ Sound nodes marks due t ∧ Later (· = id) s t ∧
    Met t.parts id part := by
  obtain ⟨part, hpart⟩ := h.exists_partOf marks
  cases hmet : s.parts[id]?.join with
  | some part =>
      refine ⟨part, s, ?_, hs, .refl, hmet⟩
      rw [Build.part, hmet]
  | none =>
      have hid : id < s.parts.size := hs.parts_size ▸ h.lt_size
      have hlater : Later (· = id) s { s with
          parts := s.parts.modify id fun _ => some part
          waiting := waitingAfter id s.waiting part } :=
        ⟨fun _ _ hi => hi.modify hmet hid part,
          fun i hi => (mem_waitingAfter hpart hi).imp_right And.left⟩
      exact ⟨part, _, part_of_not_met hs hpart hmet, hs.meet h hpart hmet, hlater,
        (met_modify_iff hid part).mpr (by rw [if_pos rfl])⟩

/-! ## Sequences -/

theorem Sound.exists_parts {ids : List NodeId} {vs : List Value} (hs : Sound nodes marks due s)
    (h : List.Forall₂ (Represents nodes) ids vs) :
    ∃ items t, ids.mapM Build.part s = .ok (items, t) ∧
      Sound nodes marks due t ∧ Later (· ∈ ids) s t ∧ List.Forall₂ (Met t.parts) ids items := by
  induction h generalizing s with
  | nil => exact ⟨[], s, rfl, hs, .refl, .nil⟩
  | @cons id v ids vs hv _ ih =>
      obtain ⟨part, t, hpart, ht, hlater, hmet⟩ := hs.exists_part hv
      obtain ⟨items, u, hitems, hu, hlater', hmets⟩ := ih ht
      refine ⟨part :: items, u, ?_, hu,
        (hlater.mono ?_).trans (hlater'.mono fun i => List.mem_cons_of_mem id),
        .cons (hlater'.parts id part hmet) hmets⟩
      · rw [List.mapM_cons]
        exact (bind_of_ok hpart).trans (bind_of_ok hitems)
      · rintro i rfl
        exact List.mem_cons_self

/-! ## Mappings -/

theorem setContent_eq_self {tag : String} {content : NodeContent}
    (h : nodes[id]? = some ⟨tag, content⟩) : nodes.setContent id content = nodes := by
  refine Array.ext_getElem? fun i => ?_
  by_cases hi : i = id
  · rw [hi, getElem?_setContent_self h, h]
  · rw [getElem?_setContent_of_ne hi]

/-- A mapping with texts for keys has nothing merged into it. -/
theorem mergeInto_of_texts {tag : String} {entries : List NodeEntry} {keys : List Text}
    (h : nodes[id]? = some ⟨tag, .mapping entries⟩)
    (hkeys : List.Forall₂ (fun i key => nodes[i]? = some ⟨strTag, .scalar key⟩)
      (entries.map Prod.fst) keys)
    {fuel : Nat} (hfuel : 2 ≤ fuel) :
    Merging.mergeInto id fuel nodes = .ok (entries, nodes) := by
  obtain ⟨fuel, rfl⟩ : ∃ n, fuel = n + 2 := ⟨fuel - 2, by omega⟩
  have hentries : nodes.entries? id = some entries := by rw [Nodes.entries?, h]
  have htag : ∀ e ∈ entries, ∀ tag, tag ≠ strTag → nodes.hasTag e.1 tag = false := by
    intro e he tag htag
    obtain ⟨key, -, hkey⟩ := exists_right_of_forall₂ hkeys (List.mem_map_of_mem he)
    rw [Nodes.hasTag, hkey]
    simpa using Ne.symm htag
  have hmerge : Merging.takeMerge? id nodes = .ok (none, nodes) := by
    have hnone : entries.zipIdx.find? (fun e => nodes.hasTag e.1.1 mergeTag) = none := by
      rw [List.find?_eq_none]
      intro e he
      simpa using htag e.1 (List.fst_mem_of_mem_zipIdx he) mergeTag (by decide)
    rw [Merging.takeMerge?, hentries]
    simp only [Option.getD_some, Merging.firstMerge?, hnone, Option.map_none]
  have hprepend : Merging.prepend id [] nodes = .ok ((), nodes) := by
    have hfold := List.foldlRecOn (motive := (· = nodes)) entries
      (fun nodes e => if Nodes.hasTag nodes e.1 valueTag then nodes.setTag e.1 strTag
        else nodes) rfl (by
          rintro _ rfl e he
          exact if_neg (by simp [htag e he valueTag (by decide)]))
    rw [Merging.prepend, hentries]
    simp only [Option.getD_some, hfold, List.nil_append, setContent_eq_self h]
  have hmerged : Merging.mergedEntries id (fuel + 1) nodes = .ok ([], nodes) := by
    rw [Merging.mergedEntries]
    exact bind_of_ok hmerge
  have hread := (bind_of_ok (f := fun merged => do
    Merging.prepend id merged
    return ((← get).entries? id).getD []) hmerged).trans (bind_of_ok hprepend)
  have hresult : (nodes.entries? id).getD [] = entries := by rw [hentries, Option.getD_some]
  have hmapping : (nodes.entries? id).isNone = false := by rw [hentries, Option.isNone_some]
  rw [Merging.mergeInto]
  refine (bind_of_ok (show (get : Merging Nodes) nodes = .ok (nodes, nodes) from rfl)).trans ?_
  simp only [hmapping, Bool.false_eq_true, if_false]
  exact hread.trans (congrArg (fun entries => Except.ok (entries, nodes)) hresult)

theorem putEntry_of_not_mem {done : List (Value × Part)} {names : List Text} {key : Text}
    (part : Part) (hdone : done.map Prod.fst = names.map .text) (hkey : key ∉ names) :
    Build.putEntry done (.text key) part = done ++ [(.text key, part)] := by
  rw [Build.putEntry, if_neg]
  simp only [List.any_eq_true, not_exists, not_and]
  intro e he
  obtain ⟨name, hname, heq⟩ :=
    List.mem_map.mp (hdone ▸ List.mem_map_of_mem he : e.1 ∈ names.map .text)
  rw [← heq, Value.alike_text, decide_eq_true_iff]
  rintro rfl
  exact hkey hname

theorem represents_text {key : Text} (h : nodes[id]? = some ⟨strTag, .scalar key⟩) :
    Represents nodes id (.text key) :=
  .scalar h (by decide) fun _ => rfl

theorem Sound.exists_keyPart {key : Text} (hs : Sound nodes marks due s)
    (h : nodes[id]? = some ⟨strTag, .scalar key⟩) :
    ∃ t, Build.keyPart id s = .ok (.text key, t) ∧ Sound nodes marks due t ∧
    Later (· = id) s t := by
  obtain ⟨part, t, hpart, ht, hlater, hmet⟩ := hs.exists_part (represents_text h)
  have hvalue := ht.parts id part hmet
  rw [partOf_scalar h (by decide) fun _ => rfl] at hvalue
  obtain rfl := Except.ok.inj hvalue
  refine ⟨t, ?_, ht, hlater⟩
  rw [Build.keyPart]
  exact bind_of_ok hpart

def addEntry (done : List (Value × Part)) (e : NodeEntry) : Build (List (Value × Part)) := do
  let key ← Build.keyPart e.1
  let value ← Build.part e.2
  return Build.putEntry done key value

/-- What a map holds, with texts for keys. -/
theorem Sound.exists_entries {entries : List NodeEntry} {before names : List Text}
    {vs : List Value} {done : List (Value × Part)} (hs : Sound nodes marks due s)
    (hdone : done.map Prod.fst = before.map .text)
    (hnames : (before ++ names).Nodup)
    (hkeys : List.Forall₂ (fun i key => nodes[i]? = some ⟨strTag, .scalar key⟩)
      (entries.map Prod.fst) names)
    (hvalues : List.Forall₂ (Represents nodes) (entries.map Prod.snd) vs) : ∃ es t,
      entries.foldlM addEntry done s = .ok (done ++ es, t) ∧
      Sound nodes marks due t ∧ Later (fun i => ∃ e ∈ entries, i = e.1 ∨ i = e.2) s t ∧
      es.map Prod.fst = names.map .text ∧
      List.Forall₂ (Met t.parts) (entries.map Prod.snd) (es.map Prod.snd) := by
  induction entries generalizing s done before names vs with
  | nil =>
      cases hkeys
      cases hvalues
      exact ⟨[], s, by rw [List.append_nil]; rfl, hs, .refl, rfl, .nil⟩
  | cons e entries ih =>
      obtain ⟨key, names, hkey, hkeysLater, rfl⟩ := List.forall₂_cons_left_iff.mp hkeys
      obtain ⟨v, vs, hv, hvaluesLater, rfl⟩ := List.forall₂_cons_left_iff.mp hvalues
      obtain ⟨t, hkeyPart, ht, hlater⟩ := hs.exists_keyPart hkey
      obtain ⟨part, u, hpart, hu, hlater', hmet⟩ := ht.exists_part hv
      have hnew : key ∉ before := fun hmem =>
        (List.nodup_append.mp hnames).2.2 key hmem key List.mem_cons_self rfl
      have hadd : addEntry done e s = .ok (done ++ [(.text key, part)], u) := by
        have hput := putEntry_of_not_mem part hdone hnew
        rw [addEntry, ← hput]
        exact (bind_of_ok hkeyPart).trans (bind_of_ok hpart)
      obtain ⟨es, w, hes, hw, hlater'', hfirst, hmets⟩ := @ih u (before ++ [key]) names vs
        (done ++ [(.text key, part)]) hu (by rw [List.map_append, List.map_append, hdone]; rfl)
        (by rwa [List.append_assoc]) hkeysLater hvaluesLater
      refine ⟨(.text key, part) :: es, w, ?_, hw, ?_, by simp [hfirst],
        .cons (hlater''.parts e.2 part hmet) hmets⟩
      · rw [List.foldlM_cons]
        refine (bind_of_ok hadd).trans ?_
        rw [hes, List.append_assoc]
        rfl
      · refine (hlater.mono ?_).trans ((hlater'.mono ?_).trans (hlater''.mono ?_))
        · exact fun i hi => ⟨e, List.mem_cons_self, .inl hi⟩
        · exact fun i hi => ⟨e, List.mem_cons_self, .inr hi⟩
        · exact fun i ⟨f, hf, hi⟩ => ⟨f, List.mem_cons_of_mem e hf, hi⟩

theorem Sound.exists_mapEntries {entries : List NodeEntry} {es : Entries Value}
    (hs : Sound nodes marks due s) (hnode : nodes[id]? = some ⟨mapTag, .mapping entries⟩)
    (hnames : es.names.Nodup)
    (hkeys : List.Forall₂ (fun i key => nodes[i]? = some ⟨strTag, .scalar key⟩)
      (entries.map Prod.fst) es.names)
    (hvalues : List.Forall₂ (Represents nodes) (entries.map Prod.snd) (es.map Prod.snd)) :
    ∃ ps t, Build.mapEntries id s = .ok (ps, t) ∧ Sound nodes marks due t ∧
      Later (fun i => ∃ e ∈ entries, i = e.1 ∨ i = e.2) s t ∧
      ps.map Prod.fst = es.names.map .text ∧
      List.Forall₂ (Met t.parts) (entries.map Prod.snd) (ps.map Prod.snd) := by
  have hempty : ([] : List (Value × Part)).map Prod.fst = [].map Value.text := rfl
  obtain ⟨ps, t, hps, ht⟩ := hs.exists_entries hempty hnames hkeys hvalues
  have hmerge : Merging.mergeInto id s.mergeFuel s.nodes = .ok (entries, s.nodes) := by
    rw [hs.nodes_eq]
    exact mergeInto_of_texts hnode hkeys hs.mergeFuel
  refine ⟨ps, t, ?_, ht⟩
  have hlift :
      (liftM ((Merging.mergeInto id s.mergeFuel).run s.nodes) :
        Build (List NodeEntry × Nodes)) s = .ok ((entries, s.nodes), s) := by
    rw [StateT.run, hmerge]
    rfl
  rw [Build.mapEntries]
  refine (bind_of_ok (show (get : Build BuildState) s = .ok (s, s) from rfl)).trans
    ((bind_of_ok hlift).trans ?_)
  exact (bind_of_ok (f := fun _ => entries.foldlM addEntry [])
    (show (set { s with nodes := s.nodes } : Build Unit) s = .ok ((), s) from rfl)).trans hps

/-! ## Levels -/

theorem Sound.exists_filling (hs : Sound nodes marks due s)
    (hcontainer : nodes.partOf marks id = .ok (.container id)) (h : Represents nodes id v) :
    ∃ filling t, Build.filling id s = .ok (filling, t) ∧ Sound nodes marks due t ∧
      Later (id < ·) s t ∧ Fills nodes t.parts id filling := by
  cases h with
  | scalar hnode htag hvalue =>
      rw [partOf_scalar hnode htag hvalue] at hcontainer
      cases hcontainer
  | @list _ ids items hnode hlater hitems =>
      obtain ⟨parts, t, hparts, ht, hnext, hmets⟩ := hs.exists_parts hitems
      refine ⟨.list parts, t, ?_, ht, hnext.mono hlater, .list hnode hmets⟩
      have htag : s.nodes.hasTag id seqTag = true := by
        rw [hs.nodes_eq, Nodes.hasTag, hnode]
        exact decide_eq_true (rfl : seqTag = seqTag)
      have hsequence : Build.sequenceItems id s = .ok (ids, s) := by
        rw [Build.sequenceItems]
        refine (bind_of_ok (show (get : Build BuildState) s = .ok (s, s) from rfl)).trans ?_
        rw [hs.nodes_eq, hnode]
        rfl
      rw [Build.filling]
      refine (bind_of_ok (show (get : Build BuildState) s = .ok (s, s) from rfl)).trans ?_
      simp only [htag, if_true]
      exact (bind_of_ok hsequence).trans (bind_of_ok hparts)
  | @map _ entries es hnode hlater hnames hkeys hvalues =>
      obtain ⟨parts, t, hparts, ht, hnext, hfirst, hmets⟩ :=
        hs.exists_mapEntries hnode hnames hkeys hvalues
      refine ⟨.map parts, t, ?_, ht, hnext.mono ?_, .map hnode ?_ hmets⟩
      · have htag : ∀ tag, s.nodes.hasTag id tag = decide (mapTag = tag) := by
          intro tag
          rw [hs.nodes_eq, Nodes.hasTag, hnode]
          rfl
        rw [Build.filling]
        refine (bind_of_ok (show (get : Build BuildState) s = .ok (s, s) from rfl)).trans ?_
        simp only [htag, show decide (mapTag = seqTag) = false by decide, decide_true,
          Bool.false_eq_true, if_false, if_true]
        exact bind_of_ok hparts
      · rintro i ⟨e, he, rfl | rfl⟩
        · exact (hlater e he).1
        · exact (hlater e he).2
      · rw [hfirst, List.forall₂_map_right_iff]
        exact hkeys.imp fun i key hkey => ⟨key, hkey, rfl⟩

/-- The step over one container: what lies in it has been met, and waits if it is to
be filled in its turn. -/
theorem Sound.exists_fill (hs : Sound nodes marks (id :: due) s) :
    ∃ t, Build.fill id s = .ok ((), t) ∧
    Sound nodes marks due t ∧ Later (id < ·) s t := by
  obtain ⟨hcontainer, v, h⟩ := hs.represents id List.mem_cons_self
  obtain ⟨filling, t, hfilling, ht, hnext, hfills⟩ := hs.exists_filling hcontainer h
  refine ⟨{ t with fillings := t.fillings.modify id fun _ => some filling }, ?_, { ht with
    fillings_size := (Array.size_modify ..).trans ht.fillings_size,
      represents := ?_, filled := ?_ },
    ⟨hnext.parts, hnext.waiting⟩⟩
  · rw [Build.fill]
    exact bind_of_ok hfilling
  · exact fun i hi => ht.represents i (List.mem_cons_of_mem id hi)
  · intro i hi
    by_cases hsame : i = id
    · subst hsame
      refine .inr ⟨filling, ?_, hfills⟩
      rw [Array.getElem?_modify, if_pos rfl,
        Array.getElem?_eq_getElem (ht.fillings_size ▸ h.lt_size)]
      rfl
    · refine (ht.filled i hi).imp (fun hi => (List.mem_cons.mp hi).resolve_left hsame) ?_
      rintro ⟨other, hother, hfills⟩
      refine ⟨other, ?_, hfills⟩
      rwa [Array.getElem?_modify, if_neg (Ne.symm hsame)]

/-- How far a level reaches: with the fuel that is left, it comes before the last node. -/
def Within (nodes : Nodes) (fuel : Nat) (ids : List NodeId) : Prop :=
  ∀ id ∈ ids, nodes.size < id + fuel

/-- A later node needs less fuel. -/
theorem lt_add_of_later {size i fuel : Nat} (hi : id < i) (h : size < id + (fuel + 1)) :
    size < i + fuel := by
  rw [← Nat.add_assoc, Nat.add_right_comm] at h
  exact Nat.lt_of_lt_of_le h (Nat.add_le_add_right hi fuel)

theorem Sound.exists_level {fuel : Nat} {level : List NodeId} (hs : Sound nodes marks level s)
    (hlevel : Within nodes (fuel + 1) level) (hwaiting : Within nodes fuel s.waiting) :
    ∃ t, (level.forM Build.fill : Build Unit) s = .ok ((), t) ∧ Sound nodes marks [] t ∧
      Within nodes fuel t.waiting ∧ ∀ id part, Met s.parts id part → Met t.parts id part := by
  induction level generalizing s with
  | nil => exact ⟨s, rfl, hs, hwaiting, fun _ _ h => h⟩
  | cons id level ih =>
      obtain ⟨t, hfill, ht, hnext⟩ := hs.exists_fill
      have hid := hlevel id List.mem_cons_self
      have hstill : Within nodes fuel t.waiting := by
        intro i hi
        rcases hnext.waiting i hi with hi | hi
        · exact hwaiting i hi
        · exact lt_add_of_later hi hid
      obtain ⟨u, hlater, hu, hwithin, hkept⟩ :=
        ih ht (fun i hi => hlevel i (List.mem_cons_of_mem id hi)) hstill
      refine ⟨u, ?_, hu, hwithin, fun i part hmet => hkept i part (hnext.parts i part hmet)⟩
      exact (bind_of_ok hfill).trans hlater

theorem Sound.exists_fillLevels {fuel : Nat} (hs : Sound nodes marks [] s)
    (hwaiting : Within nodes fuel s.waiting) :
    ∃ t, Build.fillLevels fuel s = .ok ((), t) ∧ Sound nodes marks [] t ∧ t.waiting = [] ∧
      ∀ id part, Met s.parts id part → Met t.parts id part := by
  induction fuel generalizing s with
  | zero =>
      refine ⟨s, rfl, hs, List.eq_nil_iff_forall_not_mem.mpr fun id hid => ?_, fun _ _ h => h⟩
      obtain ⟨-, v, h⟩ := hs.represents id hid
      exact absurd (hwaiting id hid) (Nat.not_lt.mpr (Nat.le_of_lt h.lt_size))
  | succ fuel ih =>
      by_cases hempty : s.waiting = []
      · refine ⟨s, ?_, hs, hempty, fun _ _ h => h⟩
        rw [Build.fillLevels]
        refine (bind_of_ok (show (get : Build BuildState) s = .ok (s, s) from rfl)).trans ?_
        rw [hempty]
        rfl
      · have hlevel : Sound nodes marks s.waiting.reverse { s with waiting := [] } := { hs with
          represents := fun i hi => hs.represents i (by simpa using hi)
          filled := fun i hi => (hs.filled i hi).imp_left fun hi => by simpa using hi }
        obtain ⟨t, hfilled, ht, hwithin, hkept⟩ := hlevel.exists_level
          (show Within nodes (fuel + 1) _ from fun i hi => hwaiting i (List.mem_reverse.mp hi))
            (by simp [Within])
        obtain ⟨u, hlater, hu, hnil, hkept'⟩ := ih ht hwithin
        refine ⟨u, ?_, hu, hnil, fun i part hmet => hkept' i part (hkept i part hmet)⟩
        have hread := (bind_of_ok (f := fun _ => Build.fillLevels fuel) hfilled).trans hlater
        have hnonempty : ¬s.waiting.reverse.isEmpty = true := by simpa using hempty
        rw [Build.fillLevels]
        refine (bind_of_ok (show (get : Build BuildState) s = .ok (s, s) from rfl)).trans ?_
        simp only [if_neg hnonempty]
        exact hread

theorem Sound.exists_root (hs : Sound nodes marks [] s) (h : Represents nodes id v) :
    ∃ part t, Build.root id s = .ok (part, t) ∧ Sound nodes marks [] t ∧ t.waiting = [] ∧
    Met t.parts id part := by
  obtain ⟨part, t, hpart, ht, hnext, hmet⟩ := hs.exists_part h
  have hwithin : Within nodes (nodes.size + 1) t.waiting := by
    intro i hi
    exact Nat.lt_of_lt_of_le (Nat.lt_succ_self _) (Nat.le_add_left ..)
  obtain ⟨u, hfilled, hu, hnil, hkept⟩ := ht.exists_fillLevels hwithin
  refine ⟨part, u, ?_, hu, hnil, hkept id part hmet⟩
  rw [← ht.nodes_eq] at hfilled
  have hread := (bind_of_ok (f := fun _ => pure part) hfilled)
  rw [Build.root]
  exact (bind_of_ok hpart).trans hread

/-! ## Unfolding -/

theorem map_eq_of_forall₂ {α β γ δ : Type} {R : α → β → Prop} {S : α → γ → Prop} {f : β → δ}
    {g : γ → δ} {xs : List α} {ys : List β} {zs : List γ} (hys : List.Forall₂ R xs ys)
    (hzs : List.Forall₂ S xs zs) (hone : ∀ x y z, R x y → S x z → f y = g z) :
    ys.map f = zs.map g := by
  induction hys generalizing zs with
  | nil => cases hzs; rfl
  | cons hxy _ ih =>
      cases hzs with
      | cons hxz hrest => rw [List.map_cons, List.map_cons, hone _ _ _ hxy hxz, ih hrest]

theorem map_pair_eq {α β γ δ : Type} {xs : List α} {ys : List β} {f : α → γ} {g : β → γ}
    {p : α → δ} {q : β → δ} (hfirst : xs.map f = ys.map g) (hsecond : xs.map p = ys.map q) :
    xs.map (fun x => (f x, p x)) = ys.map fun y => (g y, q y) := by
  rw [← List.zip_map', hfirst, hsecond, List.zip_map']

def shown (v : Value) : Unfolded := (v, [])

theorem againOf_map_shown (vs : List Value) : againOf (vs.map shown) = [] := by
  have hnone : (vs.map shown).flatMap (·.2) = [] := by simp [shown]
  rw [againOf, hnone]
  rfl

theorem unfold_list {parts : List Part} {items : List Value} {unfold : Part → Unfolded}
    (h : parts.map unfold = items.map shown) :
    (Filling.list parts).unfold unfold = shown (.list items) := by
  have hvalues : (items.map shown).map (·.1) = items := by simp [shown, Function.comp_def]
  simp only [Filling.unfold, h, hvalues, againOf_map_shown]
  rfl

theorem unfold_map {parts : List (Value × Part)} {es : Entries Value} {unfold : Part → Unfolded}
    (hnames : parts.map Prod.fst = es.names.map .text)
    (hvalues : (parts.map Prod.snd).map unfold = (es.map Prod.snd).map shown) :
    (Filling.map parts).unfold unfold = shown (.ofEntries es) := by
  have hentries :
      parts.map (fun e => (e.1, unfold e.2)) = es.map fun e => (Value.text e.1, shown e.2) :=
    map_pair_eq (by simpa [Entries.names, Function.comp_def] using hnames)
      (by simpa [Function.comp_def] using hvalues)
  have hagain : againOf ((es.map fun e => (Value.text e.1, shown e.2)).map (·.2)) = [] := by
    simpa [Function.comp_def] using againOf_map_shown (es.map Prod.snd)
  simp only [Filling.unfold, hentries, hagain]
  simp [shown, Value.ofEntries, Function.comp_def]

theorem unfold_container {fillings : Array (Option Filling)} {filling : Filling}
    {around : List NodeId} {fuel : Nat} (hfilling : fillings[id]?.join = some filling)
    (haround : id ∉ around)
    (hunfold : filling.unfold (Part.unfold fillings marks fuel (id :: around)) = shown v) :
    (Part.container id).unfold fillings marks (fuel + 1) around = shown v := by
  have hcount : around.count id = 0 := List.count_eq_zero.mpr haround
  rw [Part.unfold, hfilling]
  simp only [Option.getD_some, hcount, hunfold, shown]
  rfl

theorem Sound.exists_filled (hs : Sound nodes marks [] s) (hwaiting : s.waiting = [])
    (hcontainer : nodes.partOf marks id = .ok (.container id)) {part : Part}
    (hmet : Met s.parts id part) :
    part = .container id ∧ ∃ filling, s.fillings[id]?.join = some filling ∧
    Fills nodes s.parts id filling := by
  obtain rfl := Except.ok.inj (hcontainer.symm.trans (hs.parts id part hmet))
  exact ⟨rfl, (hs.filled id hmet).resolve_left (by simp [hwaiting])⟩

/-- Whether the part that a node is met as shows the value, inside of whatever earlier nodes. -/
def Shows (nodes : Nodes) (marks : Nat) (s : BuildState) (id : NodeId) (v : Value) : Prop :=
  ∀ part around fuel, Met s.parts id part → (∀ i ∈ around, i < id) → nodes.size < id + fuel →
    part.unfold s.fillings marks fuel around = shown v

/-- A container shows a value if that is what it is filled with, whenever the later nodes in it
show theirs. -/
theorem Sound.shows_container {node : Node} (hs : Sound nodes marks [] s)
    (hwaiting : s.waiting = []) (hnode : nodes[id]? = some node)
    (hcontainer : nodes.partOf marks id = .ok (.container id))
    (hfilled : ∀ filling unfold, Fills nodes s.parts id filling →
      (∀ i part w, id < i → Shows nodes marks s i w → Met s.parts i part →
        unfold part = shown w) →
      filling.unfold unfold = shown v) : Shows nodes marks s id v := by
  intro part around fuel hmet haround hfuel
  have hnotIn : id ∉ around := fun hmem => Nat.lt_irrefl id (haround id hmem)
  have hpositive : fuel ≠ 0 := by
    rintro rfl
    exact Nat.lt_asymm (Array.getElem?_eq_some_iff.mp hnode).1 hfuel
  obtain ⟨fuel, rfl⟩ := Nat.exists_eq_add_one_of_ne_zero hpositive
  obtain ⟨rfl, filling, hfilling, hfills⟩ := hs.exists_filled hwaiting hcontainer hmet
  refine unfold_container hfilling hnotIn (hfilled filling _ hfills ?_)
  intro i part w hi hshows hmet
  refine hshows part _ fuel hmet (fun j hj => ?_) (lt_add_of_later hi hfuel)
  rcases List.mem_cons.mp hj with rfl | hj
  · exact hi
  · exact Nat.lt_trans (haround j hj) hi

/-- Where every container is filled, a node shows what it stands for. -/
theorem Sound.shows (hs : Sound nodes marks [] s) (hwaiting : s.waiting = [])
    (h : Represents nodes id v) : Shows nodes marks s id v := by
  refine h.byNodes ?scalar ?list ?map
  case scalar =>
    intro id tag text v hnode htag hvalue part around fuel hmet _ _
    have hpart := hs.parts id part hmet
    rw [partOf_scalar hnode htag hvalue] at hpart
    obtain rfl := Except.ok.inj hpart
    rw [Part.unfold]
    rfl
  case list =>
    intro id ids items hnode hlater _ ih
    refine hs.shows_container hwaiting hnode (partOf_list hnode)
      fun filling unfold hfills h => ?_
    cases hfills with
    | map hother => cases hnode.symm.trans hother
    | @list _ parts hother hparts =>
        cases hnode.symm.trans hother
        refine unfold_list (map_eq_of_forall₂ hparts
          (forall₂_imp_of_mem ih fun i hi v _ hv => (⟨hi, hv⟩ : i ∈ ids ∧ _)) ?_)
        rintro i part v hmet ⟨hi, hv⟩
        exact h i part v (hlater i hi) hv hmet
  case map =>
    intro id entries es hnode hlater hnames hkeys _ ih
    refine hs.shows_container hwaiting hnode (partOf_map hnode)
      fun filling unfold hfills h => ?_
    cases hfills with
    | list hother => cases hnode.symm.trans hother
    | @map _ parts hother hfirst hparts =>
        cases hnode.symm.trans hother
        have hnames : (parts.map Prod.fst).map (fun k => k) = es.names.map .text := by
          refine map_eq_of_forall₂ hfirst hkeys ?_
          rintro i k key ⟨other, hother, rfl⟩ hkey
          cases hother.symm.trans hkey
          rfl
        refine unfold_map (by rwa [List.map_id'] at hnames) ?_
        refine map_eq_of_forall₂ hparts
          (forall₂_imp_of_mem ih fun i hi v _ hv => (⟨hi, hv⟩ : i ∈ entries.map Prod.snd ∧ _)) ?_
        rintro i part v hmet ⟨hi, hv⟩
        obtain ⟨e, he, rfl⟩ := List.mem_map.mp hi
        exact h e.2 part v (hlater e he).2 hv hmet

theorem value_of_represents (h : Represents nodes id v) (marks : Nat) :
    nodes.value marks id = .ok v := by
  have hnone {i : NodeId} {part : Part} : ¬Met (Array.replicate nodes.size none) i part := by
    rw [Met, Array.getElem?_replicate]
    split <;> simp
  have hstart : Sound nodes marks [] {
      nodes, marks
      parts := Array.replicate nodes.size none
      fillings := Array.replicate nodes.size none
      mergeFuel := 2 * nodes.entryCount + 2 } := {
    nodes_eq := rfl
    marks_eq := rfl
    parts_size := Array.size_replicate
    fillings_size := Array.size_replicate
    mergeFuel := Nat.le_add_left ..
    parts := fun i part hmet => absurd hmet hnone
    represents := by simp
    filled := fun i hmet => absurd hmet hnone }
  obtain ⟨part, t, hroot, ht, hwaiting, hmet⟩ := hstart.exists_root h
  have hfuel : nodes.size < id + (showings * nodes.size + 1) := by
    have hsize : nodes.size ≤ showings * nodes.size := Nat.le_mul_of_pos_left _ (by decide)
    exact Nat.lt_of_lt_of_le (Nat.lt_succ_of_le hsize) (Nat.le_add_left ..)
  have hunfold := ht.shows hwaiting h part [] _ hmet (by simp) hfuel
  rw [Nodes.value, StateT.run, hroot]
  simp only [bind, Except.bind, hunfold]
  rfl

end TerseSchema.Yaml
