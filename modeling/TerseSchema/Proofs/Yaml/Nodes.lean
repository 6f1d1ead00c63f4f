import TerseSchema.Proofs.Entries
import TerseSchema.Proofs.Outcome
import TerseSchema.Proofs.Pairing
import TerseSchema.Yaml.Content.Scalar
import TerseSchema.Yaml.Node.Parser
/-!
# Nodes of flow collections

The nodes that flow collections of plain tokens have. A node comes before the nodes that lie in
it, so none lies inside of itself.
-/

namespace TerseSchema.Yaml

/-! ## Values of nodes -/

/-- Whether a node stands for a value: a scalar is tagged as what its text denotes, and what lies
in a container comes after it. -/
inductive Represents (nodes : Nodes) : NodeId → Value → Prop
  | scalar {id : NodeId} {tag : String} {text : Text} {v : Value}
      (hnode : nodes[id]? = some ⟨tag, .scalar text⟩)
      (htag : tag ∈ scalarTags) (hvalue : ∀ mark, scalarValue mark tag text = .ok v) :
      Represents nodes id v
  | list {id : NodeId} {ids : List NodeId} {items : List Value}
      (hnode : nodes[id]? = some ⟨seqTag, .sequence ids⟩) (hlater : ∀ i ∈ ids, id < i)
      (hitems : List.Forall₂ (Represents nodes) ids items) : Represents nodes id (.list items)
  | map {id : NodeId} {entries : List NodeEntry} {es : Entries Value}
      (hnode : nodes[id]? = some ⟨mapTag, .mapping entries⟩)
      (hlater : ∀ e ∈ entries, id < e.1 ∧ id < e.2)
      (hnames : es.names.Nodup)
      (hkeys : List.Forall₂ (fun i key => nodes[i]? = some ⟨strTag, .scalar key⟩)
        (entries.map Prod.fst) es.names)
      (hvalues : List.Forall₂ (Represents nodes) (entries.map Prod.snd) (es.map Prod.snd)) :
      Represents nodes id (.ofEntries es)

variable {nodes others after : Nodes} {id : NodeId} {v : Value}

theorem Represents.lt_size (h : Represents nodes id v) : id < nodes.size := by
  cases h with
  | scalar hnode => exact (Array.getElem?_eq_some_iff.mp hnode).1
  | list hnode => exact (Array.getElem?_eq_some_iff.mp hnode).1
  | map hnode => exact (Array.getElem?_eq_some_iff.mp hnode).1

/-- Induction over the nodes that lie in a node. -/
theorem Represents.byNodes {P : NodeId → Value → Prop}
    (scalar : ∀ id tag text v, nodes[id]? = some ⟨tag, .scalar text⟩ → tag ∈ scalarTags →
      (∀ mark, scalarValue mark tag text = .ok v) → P id v)
    (list : ∀ id ids items, nodes[id]? = some ⟨seqTag, .sequence ids⟩ → (∀ i ∈ ids, id < i) →
      List.Forall₂ (Represents nodes) ids items → List.Forall₂ P ids items → P id (.list items))
    (map : ∀ id entries (es : Entries Value), nodes[id]? = some ⟨mapTag, .mapping entries⟩ →
      (∀ e ∈ entries, id < e.1 ∧ id < e.2) → es.names.Nodup →
      List.Forall₂ (fun i key => nodes[i]? = some ⟨strTag, .scalar key⟩)
        (entries.map Prod.fst) es.names →
      List.Forall₂ (Represents nodes) (entries.map Prod.snd) (es.map Prod.snd) →
      List.Forall₂ P (entries.map Prod.snd) (es.map Prod.snd) → P id (.ofEntries es))
    {id : NodeId} {v : Value} (h : Represents nodes id v) : P id v := by
  induction hleft : nodes.size - id using Nat.strongRecOn generalizing id v with
  | ind left ih =>
      have hlift {ids : List NodeId} {vs : List Value} (hlater : ∀ i ∈ ids, id < i)
          (hids : List.Forall₂ (Represents nodes) ids vs) : List.Forall₂ P ids vs := by
        refine forall₂_imp_of_mem hids fun i hi w _ hw => ih (nodes.size - i) ?_ hw rfl
        exact hleft ▸ Nat.sub_lt_sub_left h.lt_size (hlater i hi)
      cases h with
      | scalar hnode htag hvalue => exact scalar id _ _ v hnode htag hvalue
      | list hnode hlater hitems => exact list id _ _ hnode hlater hitems (hlift hlater hitems)
      | map hnode hlater hnames hkeys hvalues =>
          refine map id _ _ hnode hlater hnames hkeys hvalues (hlift ?_ hvalues)
          exact List.forall_mem_map.mpr fun e he => (hlater e he).2

/-- What a node stands for does not depend on the nodes before it. -/
theorem Represents.mono (h : Represents nodes id v)
    (hkept : ∀ i node, id ≤ i → nodes[i]? = some node → others[i]? = some node) :
    Represents others id v := by
  have hlater {id i : NodeId} (hi : id < i)
      (hkept : ∀ i node, id ≤ i → nodes[i]? = some node → others[i]? = some node) :
      ∀ j node, i ≤ j → nodes[j]? = some node → others[j]? = some node :=
    fun j node hj => hkept j node (Nat.le_trans (Nat.le_of_lt hi) hj)
  refine h.byNodes (P := fun id v =>
    (∀ i node, id ≤ i → nodes[i]? = some node → others[i]? = some node) → Represents others id v)
    ?scalar ?list ?map hkept
  case scalar =>
    intro id tag text v hnode htag hvalue hkept
    exact .scalar (hkept id _ (Nat.le_refl id) hnode) htag hvalue
  case list =>
    intro id ids items hnode hids _ ih hkept
    refine .list (hkept id _ (Nat.le_refl id) hnode) hids
      (forall₂_imp_of_mem ih fun i hi w _ hw => hw ?_)
    exact hlater (hids i hi) hkept
  case map =>
    intro id entries es hnode hids hnames hkeys _ ih hkept
    refine .map (hkept id _ (Nat.le_refl id) hnode) hids hnames ?_ ?_
    · refine forall₂_imp_of_mem hkeys fun i hi key _ hkey => ?_
      obtain ⟨e, he, rfl⟩ := List.mem_map.mp hi
      exact hkept e.1 _ (Nat.le_of_lt (hids e he).1) hkey
    · refine forall₂_imp_of_mem ih fun i hi w _ hw => hw ?_
      obtain ⟨e, he, rfl⟩ := List.mem_map.mp hi
      exact hlater (hids e he).2 hkept

/-! ## Growing documents -/

def Grows (nodes after : Nodes) : Prop :=
  ∀ (i : NodeId) (node : Node), nodes[i]? = some node → after[i]? = some node

theorem Grows.refl : Grows nodes nodes := fun _ _ h => h

theorem Grows.trans (h : Grows nodes others) (hafter : Grows others after) : Grows nodes after :=
  fun i node hi => hafter i node (h i node hi)

theorem Grows.size_le (h : Grows nodes after) : nodes.size ≤ after.size := by
  by_contra hlt
  have hnone := h _ _ (Array.getElem?_eq_getElem (Nat.not_le.mp hlt))
  simp at hnone

theorem grows_push (node : Node) : Grows nodes (nodes.push node) := by
  intro i other hi
  rwa [Array.getElem?_push_lt (Array.getElem?_eq_some_iff.mp hi).1, ← Array.getElem?_eq_getElem]

theorem Represents.grow (h : Represents nodes id v) (hgrows : Grows nodes after) :
    Represents after id v :=
  h.mono fun i node _ => hgrows i node

/-! ## Steps of the parser -/

variable {ts : List Token} {anchors : List (String × NodeId)}

theorem node_scalar (place : Place) (fuel : Nat) (text : Text) (isPlain : Bool) :
    node standardHandles place (fuel + 1) ⟨.scalar text isPlain :: ts, nodes, anchors⟩ =
      .ok (nodes.size, ⟨ts, nodes.push (scalarNode none isPlain text), anchors⟩) := by
  rw [node]
  rfl

theorem sequenceNode_of_ok {items : Parser (List NodeId)} {ids : List NodeId} {t : ParserState}
    (h : items ⟨ts, nodes.push ⟨seqTag, .sequence []⟩, anchors⟩ = .ok (ids, t)) :
    sequenceNode {} items ⟨ts, nodes, anchors⟩ =
      .ok (nodes.size, { t with nodes := t.nodes.setContent nodes.size (.sequence ids) }) := by
  have hadd : Parser.add none ⟨seqTag, .sequence []⟩ ⟨ts, nodes, anchors⟩ =
      .ok (nodes.size, ⟨ts, nodes.push ⟨seqTag, .sequence []⟩, anchors⟩) := rfl
  rw [sequenceNode]
  exact (bind_of_ok hadd).trans (bind_of_ok h)

theorem mappingNode_of_ok {entries : Parser (List NodeEntry)} {pairs : List NodeEntry}
    {t : ParserState}
    (h : entries ⟨ts, nodes.push ⟨mapTag, .mapping []⟩, anchors⟩ = .ok (pairs, t)) :
    mappingNode {} entries ⟨ts, nodes, anchors⟩ =
      .ok (nodes.size, { t with nodes := t.nodes.setContent nodes.size (.mapping pairs) }) := by
  have hadd : Parser.add none ⟨mapTag, .mapping []⟩ ⟨ts, nodes, anchors⟩ =
      .ok (nodes.size, ⟨ts, nodes.push ⟨mapTag, .mapping []⟩, anchors⟩) := rfl
  rw [mappingNode]
  exact (bind_of_ok hadd).trans (bind_of_ok h)

theorem node_list {fuel : Nat} {ids : List NodeId} {t : ParserState} (place : Place)
    (h : flowItems standardHandles true fuel ⟨ts, nodes.push ⟨seqTag, .sequence []⟩,
      anchors⟩ = .ok (ids, t)) :
    node standardHandles place (fuel + 1) ⟨.flowSequenceStart :: ts, nodes, anchors⟩ =
      .ok (nodes.size, { t with nodes := t.nodes.setContent nodes.size (.sequence ids) }) := by
  rw [node]
  exact @sequenceNode_of_ok nodes (.flowSequenceStart :: ts) anchors
    (Parser.drop *> flowItems standardHandles true fuel) ids t h

theorem node_map {fuel : Nat} {pairs : List NodeEntry} {t : ParserState} (place : Place)
    (h : flowEntries standardHandles true fuel ⟨ts, nodes.push ⟨mapTag, .mapping []⟩, anchors⟩ =
      .ok (pairs, t)) :
    node standardHandles place (fuel + 1) ⟨.flowMappingStart :: ts, nodes, anchors⟩ =
      .ok (nodes.size, { t with nodes := t.nodes.setContent nodes.size (.mapping pairs) }) := by
  rw [node]
  exact @mappingNode_of_ok nodes (.flowMappingStart :: ts) anchors
    (Parser.drop *> flowEntries standardHandles true fuel) pairs t h

/-! ## Values -/

def startsValue : Token → Bool
  | .scalar _ _ => true
  | .flowSequenceStart => true
  | .flowMappingStart => true
  | _ => false

/-- Whether tokens are read as a node that stands for a value, wherever they come. -/
structure Parses (tokens : List Token) (v : Value) : Prop where
  starts : ∃ first more, tokens = first :: more ∧ startsValue first = true
  node : ∀ (place : Place) (fuel : Nat) (rest : List Token) (nodes : Nodes)
    (anchors : List (String × NodeId)),
    tokens.length ≤ fuel →
    ∃ after, Yaml.node standardHandles place fuel ⟨tokens ++ rest, nodes, anchors⟩ =
      .ok (nodes.size, ⟨rest, after, anchors⟩) ∧ Grows nodes after ∧
      Represents after nodes.size v

theorem parses_scalar {text : Text} (isPlain : Bool) {tag : String} {v : Value}
    (htag : (if isPlain then resolve text else strTag) = tag) (hmem : tag ∈ scalarTags)
    (hvalue : ∀ mark, scalarValue mark tag text = .ok v) : Parses [.scalar text isPlain] v := by
  refine ⟨⟨_, _, rfl, rfl⟩, fun place fuel rest nodes anchors hfuel => ?_⟩
  obtain ⟨fuel, rfl⟩ := Nat.exists_eq_add_one_of_ne_zero (Nat.ne_of_gt hfuel)
  have hnode : scalarNode none isPlain text = ⟨tag, .scalar text⟩ := by rw [← htag]; rfl
  refine ⟨_, node_scalar place fuel text isPlain, grows_push _, .scalar ?_ hmem hvalue⟩
  rw [hnode, Array.getElem?_push_size]

/-- Parts with the sign of an entry before each of them, unless the first one stands alone. -/
def separated : Bool → List (List Token) → List Token
  | _, [] => []
  | isFirst, ts :: tss => (if isFirst then [] else [.flowEntry]) ++ (ts ++ separated false tss)

theorem intercalate_eq_separated (tss : List (List Token)) :
    [Token.flowEntry].intercalate tss = separated true tss := by
  have hlater (ts : List Token) (tss : List (List Token)) :
      [Token.flowEntry].intercalate (ts :: tss) = ts ++ separated false tss := by
    induction tss generalizing ts with
    | nil => simp [separated]
    | cons us tss ih =>
        rw [List.intercalate_cons_cons, ih]
        simp [separated]
  cases tss with
  | nil => rfl
  | cons ts tss => exact hlater ts tss

theorem flowItems_closing (isFirst : Bool) (fuel : Nat) :
    flowItems standardHandles isFirst (fuel + 1) ⟨.flowSequenceEnd :: ts, nodes, anchors⟩ =
      .ok ([], ⟨ts, nodes, anchors⟩) := by
  rw [flowItems]
  rfl

variable {isFirst : Bool} {fuel : Nat} {first : Token} {more : List Token} {id value : NodeId}
  {s t u : ParserState}

theorem flowItems_item {ids : List NodeId} (hfirst : startsValue first = true)
    (hitem : node standardHandles .flow fuel ⟨first :: more, nodes, anchors⟩ = .ok (id, s))
    (hlater : flowItems standardHandles false fuel s = .ok (ids, t)) :
    flowItems standardHandles isFirst (fuel + 1)
      ⟨(if isFirst then [] else [.flowEntry]) ++ first :: more, nodes, anchors⟩ =
        .ok (id :: ids, t) := by
  have hread :=
    (bind_of_ok (f := fun id => do return id :: (← flowItems standardHandles false fuel))
      hitem).trans (bind_of_ok hlater)
  rw [flowItems]
  cases first <;> cases hfirst <;> cases isFirst <;> exact hread

theorem flowEntries_closing (isFirst : Bool) (fuel : Nat) :
    flowEntries standardHandles isFirst (fuel + 1) ⟨.flowMappingEnd :: ts, nodes, anchors⟩ =
      .ok ([], ⟨ts, nodes, anchors⟩) := by
  rw [flowEntries]
  rfl

theorem nodeUnless_of_starts (ends : List Token) (hfirst : startsValue first = true)
    (hends : ∀ token ∈ ends, startsValue token = false) :
    nodeUnless standardHandles .flow ends (fuel + 1)
      ⟨first :: more, nodes, anchors⟩ =
        node standardHandles .flow fuel ⟨first :: more, nodes, anchors⟩ := by
  have hcontains : ends.contains first = false := by
    rw [List.contains_eq_mem, decide_eq_false_iff_not]
    intro hmem
    rw [hends first hmem] at hfirst
    cases hfirst
  have hread :=
    bind_of_ok (f := fun next => if ends.contains next then emptyNode
      else node standardHandles .flow fuel)
    (show Parser.peek ⟨first :: more, nodes, anchors⟩ =
      .ok (first, ⟨first :: more, nodes, anchors⟩) by
      cases first <;> cases hfirst <;> rfl)
  rw [hcontains] at hread
  rw [nodeUnless]
  exact hread

theorem flowValue_of_starts (closing : Token) (hfirst : startsValue first = true)
    (hclosing : startsValue closing = false) : flowValue standardHandles closing (fuel + 2)
      ⟨.value :: first :: more, nodes, anchors⟩ =
        node standardHandles .flow fuel ⟨first :: more, nodes, anchors⟩ := by
  rw [flowValue]
  exact nodeUnless_of_starts _ hfirst (by simp [hclosing]; rfl)

theorem flowEntries_entry {key : Text} {pairs : List NodeEntry}
    (hfirst : startsValue first = true)
    (hvalue : node standardHandles .flow fuel ⟨first :: more,
      nodes.push ⟨strTag, .scalar key⟩, anchors⟩ =
      .ok (value, s))
    (hlater : flowEntries standardHandles false (fuel + 2) s = .ok (pairs, t)) :
    flowEntries standardHandles isFirst (fuel + 3)
      ⟨(if isFirst then [] else [.flowEntry]) ++ .key :: .scalar key false :: .value :: first ::
        more, nodes, anchors⟩ =
        .ok ((nodes.size, value) :: pairs, t) := by
  have hkey :=
    (nodeUnless_of_starts [.value, .flowEntry, .flowMappingEnd] rfl
      (by simp [startsValue])).trans
    (@node_scalar nodes (.value :: first :: more) anchors .flow fuel key false)
  have hread := (bind_of_ok (f := fun key => do
      let value ← flowValue standardHandles .flowMappingEnd (fuel + 2)
      return (key, value) :: (← flowEntries standardHandles false (fuel + 2))) hkey).trans
    ((bind_of_ok (f := fun value => do
      return (nodes.size, value) :: (← flowEntries standardHandles false (fuel + 2)))
        ((flowValue_of_starts .flowMappingEnd hfirst rfl).trans hvalue)).trans
      (bind_of_ok hlater))
  rw [flowEntries]
  cases isFirst <;> exact hread

/-! ## Containers -/

theorem length_separated_cons (isFirst : Bool) (tokens : List Token) (tss : List (List Token)) :
    tokens.length + (separated false tss).length ≤
      (separated isFirst (tokens :: tss)).length := by
  rw [separated, List.length_append, List.length_append]
  exact Nat.le_add_left ..

theorem exists_flowItems {tss : List (List Token)} {vs : List Value}
    (h : List.Forall₂ Parses tss vs) (isFirst : Bool) (rest : List Token) (nodes : Nodes)
    {fuel : Nat} (hfuel : (separated isFirst tss).length < fuel) :
    ∃ ids after,
      flowItems standardHandles isFirst fuel ⟨separated isFirst tss ++ .flowSequenceEnd :: rest,
        nodes, anchors⟩ =
        .ok (ids, ⟨rest, after, anchors⟩) ∧ Grows nodes after ∧
        List.Forall₂ (Represents after) ids vs ∧
      ∀ i ∈ ids, nodes.size ≤ i := by
  induction h generalizing isFirst nodes fuel with
  | nil =>
      obtain ⟨fuel, rfl⟩ := Nat.exists_eq_add_one_of_ne_zero (Nat.ne_zero_of_lt hfuel)
      exact ⟨[], nodes, flowItems_closing isFirst fuel, .refl, .nil, by simp⟩
  | @cons tokens v tss vs hv hvs ih =>
      obtain ⟨fuel, rfl⟩ := Nat.exists_eq_add_one_of_ne_zero (Nat.ne_zero_of_lt hfuel)
      obtain ⟨first, more, rfl, hfirst⟩ := hv.starts
      have hlength := length_separated_cons isFirst (first :: more) tss
      rw [List.length_cons] at hlength
      obtain ⟨middle, hitem, hgrows, hrepresents⟩ := hv.node .flow fuel
        (separated false tss ++ .flowSequenceEnd :: rest) nodes anchors
          (by rw [List.length_cons]; omega)
      obtain ⟨ids, after, hlater, hgrows', hids, hle⟩ := @ih false middle fuel (by omega)
      refine ⟨nodes.size :: ids, after, ?_, hgrows.trans hgrows',
        .cons (hrepresents.grow hgrows') hids, ?_⟩
      · rw [separated, List.append_assoc, List.append_assoc]
        exact flowItems_item hfirst hitem hlater
      · exact List.forall_mem_cons.mpr ⟨Nat.le_refl _,
          fun i hi => Nat.le_trans hgrows.size_le (hle i hi)⟩

def ParsesEntry (tokens : List Token) (e : Text × Value) : Prop :=
  ∃ ts, tokens = [.key, .scalar e.1 false, .value] ++ ts ∧ Parses ts e.2

theorem exists_flowEntries {tss : List (List Token)} {es : Entries Value}
    (h : List.Forall₂ ParsesEntry tss es) (isFirst : Bool) (rest : List Token) (nodes : Nodes)
    {fuel : Nat} (hfuel : (separated isFirst tss).length < fuel) :
    ∃ pairs after,
      flowEntries standardHandles isFirst fuel ⟨separated isFirst tss ++ .flowMappingEnd :: rest,
        nodes, anchors⟩ =
        .ok (pairs, ⟨rest, after, anchors⟩) ∧ Grows nodes after ∧
      List.Forall₂ (fun i key => after[i]? = some ⟨strTag, .scalar key⟩)
        (pairs.map Prod.fst) es.names ∧
      List.Forall₂ (Represents after) (pairs.map Prod.snd) (es.map Prod.snd) ∧
      ∀ e ∈ pairs, nodes.size ≤ e.1 ∧ nodes.size ≤ e.2 := by
  induction h generalizing isFirst nodes fuel with
  | nil =>
      obtain ⟨fuel, rfl⟩ := Nat.exists_eq_add_one_of_ne_zero (Nat.ne_zero_of_lt hfuel)
      exact ⟨[], nodes, flowEntries_closing isFirst fuel, .refl, .nil, .nil, by simp⟩
  | @cons tokens e tss es he hes ih =>
      obtain ⟨ts, rfl, hv⟩ := he
      obtain ⟨first, more, rfl, hfirst⟩ := hv.starts
      have hlength :=
        length_separated_cons isFirst ([.key, .scalar e.1 false, .value] ++ first :: more) tss
      simp only [List.length_append, List.length_cons, List.length_nil] at hlength
      obtain ⟨fuel, rfl⟩ : ∃ n, fuel = n + 3 := ⟨fuel - 3, by omega⟩
      obtain ⟨middle, hvalue, hgrows, hrepresents⟩ := hv.node .flow fuel
        (separated false tss ++ .flowMappingEnd :: rest)
          (nodes.push ⟨strTag, .scalar e.1⟩) anchors
        (by rw [List.length_cons]; omega)
      have hkey := hgrows nodes.size ⟨strTag, .scalar e.1⟩ Array.getElem?_push_size
      have hgrows := (grows_push _).trans hgrows
      obtain ⟨pairs, after, hlater, hgrows', hkeys, hvalues, hle⟩ :=
        @ih false middle (fuel + 2) (by omega)
      rw [Array.size_push] at hvalue hrepresents
      refine ⟨(nodes.size, nodes.size + 1) :: pairs, after, ?_, hgrows.trans hgrows',
        .cons (hgrows' _ _ hkey) hkeys, .cons (hrepresents.grow hgrows') hvalues, ?_⟩
      · rw [separated, List.append_assoc, List.append_assoc]
        exact flowEntries_entry hfirst hvalue hlater
      · refine List.forall_mem_cons.mpr ⟨⟨Nat.le_refl _, Nat.le_succ _⟩, fun p hp => ?_⟩
        exact ⟨Nat.le_trans hgrows.size_le (hle p hp).1,
          Nat.le_trans hgrows.size_le (hle p hp).2⟩

section

variable {content : NodeContent}

theorem getElem?_setContent_of_ne {i : NodeId} (h : i ≠ id) :
    (nodes.setContent id content)[i]? = nodes[i]? := by
  rw [Nodes.setContent, Array.getElem?_modify, if_neg (Ne.symm h)]

theorem getElem?_setContent_self {node : Node} (h : nodes[id]? = some node) :
    (nodes.setContent id content)[id]? = some { node with content } := by
  rw [Nodes.setContent, Array.getElem?_modify, if_pos rfl, h]
  rfl

/-- What is put into a container at last changes neither the nodes before it nor what the
nodes after it stand for. -/
theorem grows_setContent {node : Node} (h : Grows (nodes.push node) after) :
    Grows nodes (after.setContent nodes.size content) := by
  intro i other hi
  rw [getElem?_setContent_of_ne (Nat.ne_of_lt (Array.getElem?_eq_some_iff.mp hi).1)]
  exact h i other (grows_push node i other hi)

theorem Represents.setContent {i : NodeId} (h : Represents nodes i v) (hi : id < i) :
    Represents (nodes.setContent id content) i v :=
  h.mono fun j node hj hnode => by
    rwa [getElem?_setContent_of_ne (Nat.ne_of_gt (Nat.lt_of_lt_of_le hi hj))]

end

theorem parses_list {tss : List (List Token)} {vs : List Value}
    (h : List.Forall₂ Parses tss vs) :
    Parses (.flowSequenceStart :: ([.flowEntry].intercalate tss ++ [.flowSequenceEnd]))
      (.list vs) := by
  refine ⟨⟨_, _, rfl, rfl⟩, fun place fuel rest nodes anchors hfuel => ?_⟩
  rw [intercalate_eq_separated, List.length_cons, List.length_append,
    List.length_singleton] at hfuel
  obtain ⟨fuel, rfl⟩ := Nat.exists_eq_add_one_of_ne_zero (show fuel ≠ 0 by omega)
  obtain ⟨ids, after, hitems, hgrows, hrepresents, hle⟩ :=
    @exists_flowItems anchors tss vs h true rest
      (nodes.push ⟨seqTag, .sequence []⟩) fuel (by omega)
  rw [Array.size_push] at hle
  refine ⟨after.setContent nodes.size (.sequence ids), ?_, grows_setContent hgrows, .list ?_ hle
    (forall₂_imp_of_mem hrepresents fun i hi v _ hv => hv.setContent (hle i hi))⟩
  · rw [intercalate_eq_separated, List.cons_append, List.append_assoc]
    exact node_list place hitems
  · exact getElem?_setContent_self
      (hgrows nodes.size ⟨seqTag, .sequence []⟩ Array.getElem?_push_size)

theorem parses_map {tss : List (List Token)} {es : Entries Value}
    (h : List.Forall₂ ParsesEntry tss es) (hnames : es.names.Nodup) :
    Parses (.flowMappingStart :: ([.flowEntry].intercalate tss ++ [.flowMappingEnd]))
      (.ofEntries es) := by
  refine ⟨⟨_, _, rfl, rfl⟩, fun place fuel rest nodes anchors hfuel => ?_⟩
  rw [intercalate_eq_separated, List.length_cons, List.length_append,
    List.length_singleton] at hfuel
  obtain ⟨fuel, rfl⟩ := Nat.exists_eq_add_one_of_ne_zero (show fuel ≠ 0 by omega)
  obtain ⟨pairs, after, hpairs, hgrows, hkeys, hvalues, hle⟩ :=
    @exists_flowEntries anchors tss es h true rest
      (nodes.push ⟨mapTag, .mapping []⟩) fuel (by omega)
  rw [Array.size_push] at hle
  refine ⟨after.setContent nodes.size (.mapping pairs), ?_, grows_setContent hgrows, .map ?_ hle
    hnames (forall₂_imp_of_mem hkeys fun i hi key _ hkey => ?_)
    (forall₂_imp_of_mem hvalues fun i hi v _ hv => hv.setContent ?_)⟩
  · rw [intercalate_eq_separated, List.cons_append, List.append_assoc]
    exact node_map place hpairs
  · exact getElem?_setContent_self
      (hgrows nodes.size ⟨mapTag, .mapping []⟩ Array.getElem?_push_size)
  · obtain ⟨e, he, rfl⟩ := List.mem_map.mp hi
    rwa [getElem?_setContent_of_ne (Nat.ne_of_gt (hle e he).1)]
  · obtain ⟨e, he, rfl⟩ := List.mem_map.mp hi
    exact (hle e he).2

/-! ## Documents -/

/-- The root of a document that is a single node is its first one. -/
theorem Parses.ofTokens {tokens : List Token} (h : Parses tokens v) :
    ∃ nodes, Nodes.ofTokens (tokens ++ [.streamEnd]) = .ok (nodes, some 0) ∧
    Represents nodes 0 v := by
  obtain ⟨first, more, rfl, hfirst⟩ := h.starts
  obtain ⟨fuel, hfuel⟩ : ∃ n, 3 * ((first :: more) ++ [Token.streamEnd]).length + 3 = n + 1 :=
    ⟨_, rfl⟩
  obtain ⟨after, hnode, -, hrepresents⟩ := h.node .block (fuel + 1) [.streamEnd] #[] []
    (by rw [List.length_append] at hfuel; omega)
  have hread := (bind_of_ok (f := fun root => do
      documentEnd (fuel + 1)
      return some root) hnode).trans
    (bind_of_ok (f := fun _ => pure (some 0))
      (show documentEnd (fuel + 1) ⟨[.streamEnd], after, []⟩ =
        .ok ((), ⟨[], after, []⟩) from rfl))
  have hdocument : onlyDocument (fuel + 1) { tokens := (first :: more) ++ [.streamEnd] } =
      .ok (some 0, ⟨[], after, []⟩) := by
    rw [onlyDocument]
    cases first <;> cases hfirst <;> exact hread
  refine ⟨after, ?_, hrepresents⟩
  rw [Nodes.ofTokens, hfuel, StateT.run, hdocument]
  rfl

end TerseSchema.Yaml
