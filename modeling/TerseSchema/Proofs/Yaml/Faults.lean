import TerseSchema.Proofs.Outcome
import TerseSchema.Yaml.Node.Parser
/-!
# Faults of tokens

Reading nodes fails by no other faults than those of the tokens: where it comes upon none of
them, the tokens are in an order that no document has, and the text is malformed.
-/

namespace TerseSchema.Yaml

variable {E : Fault → Prop} {α β : Type}

def Limited (E : Fault → Prop) (s : ParserState) : Prop :=
  ∀ fault, .broken fault ∈ s.tokens → E fault

/-- Whether a step of the parser fails as `E` says, where this can be said of the tokens. -/
abbrev Limits (E : Fault → Prop) (p : Parser α) : Prop :=
  Ends (Limited E) E (fun _ => Limited E) p

namespace Limits

theorem andThen {p : Parser α} {f : α → Parser β} (hp : Limits E p) (hf : ∀ a, Limits E (f a)) :
    Limits E (p >>= f) :=
  Ends.bind hp hf

theorem give (a : α) : Limits E (pure a) := .pure fun _ h => h

end Limits

/-! ## Single tokens -/

section

variable (hmalformed : E .malformed)

include hmalformed

theorem limits_peek : Limits E Parser.peek := by
  intro s hs
  rw [Parser.peek]
  split
  · exact .error hmalformed
  · next fault rest htokens => exact .error (hs fault (htokens ▸ List.mem_cons_self))
  · exact .ok hs

omit hmalformed in
theorem limits_drop : Limits E Parser.drop :=
  fun _ hs => .ok fun fault hfault => hs fault (List.mem_of_mem_drop hfault)

theorem limits_accept (token : Token) : Limits E (Parser.accept token) := by
  refine (limits_peek hmalformed).andThen fun next => ?_
  split
  · exact limits_drop.andThen fun _ => .give true
  · exact .give false

theorem limits_expect (token : Token) : Limits E (Parser.expect token) := by
  refine (limits_accept hmalformed token).andThen fun accepted => ?_
  split
  · exact .throw hmalformed
  · exact .give ()

theorem limits_lookup (name : String) : Limits E (Parser.lookup name) := by
  intro s hs
  rw [Parser.lookup]
  split
  · exact .ok hs
  · exact .error hmalformed

/-! ## Nodes -/

theorem limits_add (anchor : Option String) (node : Node) :
    Limits E (Parser.add anchor node) := by
  intro s hs
  rw [Parser.add.eq_def]
  split
  · exact .ok hs
  · dsimp only
    split
    · exact .error hmalformed
    · exact .ok hs

omit hmalformed in
theorem limits_complete (id : NodeId) (content : NodeContent) :
    Limits E (Parser.complete id content) :=
  fun _ hs => .ok hs

theorem limits_emptyNode : Limits E emptyNode := limits_add hmalformed none _

theorem limits_optionalAnchor : Limits E optionalAnchor := by
  refine (limits_peek hmalformed).andThen fun next => ?_
  split
  · exact limits_drop.andThen fun _ => .give _
  · exact .give none

theorem limits_optionalTag : Limits E optionalTag := by
  refine (limits_peek hmalformed).andThen fun next => ?_
  split
  · exact limits_drop.andThen fun _ => .give _
  · exact .give none

theorem limits_expandTag (handles : Handles) (tag : Option (Option String × String)) :
    Limits E (liftM (expandTag handles tag)) := by
  intro s hs
  rcases tag with _ | ⟨_ | handle, suffix⟩
  · exact .ok hs
  · exact .ok hs
  · rw [expandTag]
    split
    · exact .ok hs
    · exact .error hmalformed

theorem limits_properties (handles : Handles) : Limits E (properties handles) := by
  refine (limits_optionalAnchor hmalformed).andThen fun anchor => ?_
  split
  · refine (limits_optionalTag hmalformed).andThen fun tag => ?_
    exact (limits_expandTag hmalformed handles tag).andThen fun _ => .give _
  · refine (limits_optionalTag hmalformed).andThen fun tag => ?_
    split
    · exact .give _
    · refine (limits_optionalAnchor hmalformed).andThen fun anchor => ?_
      exact (limits_expandTag hmalformed handles _).andThen fun _ => .give _

theorem limits_bareNode (given : Properties) : Limits E (bareNode given) := by
  rw [bareNode]
  split
  · exact (Ends.throw hmalformed).bind fun _ => limits_add hmalformed given.anchor _
  · exact limits_add hmalformed given.anchor _

theorem limits_sequenceNode (given : Properties) {items : Parser (List NodeId)}
    (h : Limits E items) :
    Limits E (sequenceNode given items) :=
  (limits_add hmalformed _ _).andThen fun id => h.andThen fun _ =>
    (limits_complete id _).andThen fun _ => .give id

theorem limits_mappingNode (given : Properties) {entries : Parser (List NodeEntry)}
    (h : Limits E entries) :
    Limits E (mappingNode given entries) :=
  (limits_add hmalformed _ _).andThen fun id => h.andThen fun _ =>
    (limits_complete id _).andThen fun _ => .give id

/-- What is to be shown of the readers of nodes, all of them together, as
each leads to the others. -/
structure NodeLimits (E : Fault → Prop) (handles : Handles) (fuel : Nat) : Prop where
  node : ∀ place, Limits E (node handles place fuel)
  nodeUnless : ∀ place ends, Limits E (nodeUnless handles place ends fuel)
  blockItems : Limits E (blockItems handles fuel)
  hangingItems : Limits E (hangingItems handles fuel)
  blockEntries : Limits E (blockEntries handles fuel)
  flowValue : ∀ closing, Limits E (flowValue handles closing fuel)
  flowPair : Limits E (flowPair handles fuel)
  flowItems : ∀ isFirst, Limits E (flowItems handles isFirst fuel)
  flowEntries : ∀ isFirst, Limits E (flowEntries handles isFirst fuel)

namespace NodeLimits

variable {handles : Handles} {fuel : Nat} (h : NodeLimits E handles fuel)

omit hmalformed in
theorem cons {x : α} {p : Parser (List α)} (hp : Limits E p) : Limits E (do return x :: (← p)) :=
  hp.andThen fun _ => .give _

include h

theorem node_succ (place : Place) : Limits E (Yaml.node handles place (fuel + 1)) := by
  rw [Yaml.node]
  refine (limits_peek hmalformed).andThen fun next => ?_
  split
  · exact limits_drop.andThen fun _ => limits_lookup hmalformed _
  · refine (limits_properties hmalformed handles).andThen fun given => ?_
    refine (limits_peek hmalformed).andThen fun next => ?_
    have hbare := limits_bareNode hmalformed given
    split
    · exact limits_drop.andThen fun _ => limits_add hmalformed given.anchor _
    · exact limits_sequenceNode hmalformed given (limits_drop.andThen fun _ => h.flowItems true)
    · exact limits_mappingNode hmalformed given (limits_drop.andThen fun _ => h.flowEntries true)
    · split
      · exact hbare
      · exact limits_sequenceNode hmalformed given (limits_drop.andThen fun _ => h.blockItems)
    · split
      · exact hbare
      · exact limits_mappingNode hmalformed given (limits_drop.andThen fun _ => h.blockEntries)
    · split
      · exact limits_sequenceNode hmalformed given h.hangingItems
      · exact hbare
    · exact hbare

theorem nodeUnless_succ (place : Place) (ends : List Token) :
    Limits E (Yaml.nodeUnless handles place ends (fuel + 1)) := by
  rw [Yaml.nodeUnless]
  refine (limits_peek hmalformed).andThen fun next => ?_
  split
  · exact limits_emptyNode hmalformed
  · exact h.node place

theorem blockItems_succ : Limits E (Yaml.blockItems handles (fuel + 1)) := by
  rw [Yaml.blockItems]
  refine (limits_accept hmalformed _).andThen fun accepted => ?_
  split
  · exact (h.nodeUnless _ _).andThen fun _ => cons h.blockItems
  · exact (limits_expect hmalformed _).andThen fun _ => .give []

theorem hangingItems_succ : Limits E (Yaml.hangingItems handles (fuel + 1)) := by
  rw [Yaml.hangingItems]
  refine (limits_accept hmalformed _).andThen fun accepted => ?_
  split
  · exact (h.nodeUnless _ _).andThen fun _ => cons h.hangingItems
  · exact .give []

theorem blockEntries_succ : Limits E (Yaml.blockEntries handles (fuel + 1)) := by
  rw [Yaml.blockEntries]
  refine (limits_accept hmalformed _).andThen fun accepted => ?_
  split
  · refine (h.nodeUnless _ _).andThen fun key =>
      (limits_accept hmalformed _).andThen fun accepted => ?_
    split
    · exact (h.nodeUnless _ _).andThen fun _ => cons h.blockEntries
    · exact (limits_emptyNode hmalformed).andThen fun _ => cons h.blockEntries
  · exact (limits_expect hmalformed _).andThen fun _ => .give []

theorem flowValue_succ (closing : Token) :
    Limits E (Yaml.flowValue handles closing (fuel + 1)) := by
  rw [Yaml.flowValue]
  refine (limits_accept hmalformed _).andThen fun accepted => ?_
  split
  · exact h.nodeUnless _ _
  · exact limits_emptyNode hmalformed

omit hmalformed in
theorem flowPair_succ : Limits E (Yaml.flowPair handles (fuel + 1)) := by
  rw [Yaml.flowPair]
  exact (h.nodeUnless _ _).andThen fun _ => (h.flowValue _).andThen fun _ => .give _

theorem flowItems_succ (isFirst : Bool) :
    Limits E (Yaml.flowItems handles isFirst (fuel + 1)) := by
  rw [Yaml.flowItems]
  refine (limits_accept hmalformed _).andThen fun accepted => ?_
  split
  · exact .give []
  split
  case' isTrue => refine (limits_expect hmalformed _).andThen fun _ => ?_
  -- With or without a comma before it, the item is told by the next token.
  all_goals
    refine (limits_peek hmalformed).andThen fun next => ?_
    split
    · exact limits_drop.andThen fun _ =>
        (limits_mappingNode hmalformed _ h.flowPair).andThen fun _ =>
        cons (h.flowItems false)
    · exact limits_drop.andThen fun _ => .give []
    · exact (h.node _).andThen fun _ => cons (h.flowItems false)

theorem flowEntries_succ (isFirst : Bool) :
    Limits E (Yaml.flowEntries handles isFirst (fuel + 1)) := by
  rw [Yaml.flowEntries]
  refine (limits_accept hmalformed _).andThen fun accepted => ?_
  split
  · exact .give []
  split
  case' isTrue => refine (limits_expect hmalformed _).andThen fun _ => ?_
  all_goals
    refine (limits_peek hmalformed).andThen fun next => ?_
    split
    · exact limits_drop.andThen fun _ => (h.nodeUnless _ _).andThen fun _ =>
        (h.flowValue _).andThen fun _ =>
        cons (h.flowEntries false)
    · exact limits_drop.andThen fun _ => .give []
    · exact (h.node _).andThen fun _ => (limits_emptyNode hmalformed).andThen fun _ =>
        cons (h.flowEntries false)

end NodeLimits

theorem nodeLimits (handles : Handles) (fuel : Nat) : NodeLimits E handles fuel := by
  induction fuel with
  | zero => constructor <;> intros <;> exact .throw hmalformed
  | succ fuel ih =>
      exact {
        node := ih.node_succ hmalformed
        nodeUnless := ih.nodeUnless_succ hmalformed
        blockItems := ih.blockItems_succ hmalformed
        hangingItems := ih.hangingItems_succ hmalformed
        blockEntries := ih.blockEntries_succ hmalformed
        flowValue := ih.flowValue_succ hmalformed
        flowPair := ih.flowPair_succ
        flowItems := ih.flowItems_succ hmalformed
        flowEntries := ih.flowEntries_succ hmalformed }

/-! ## Documents -/

theorem limits_addDirective (p : Prologue) (d : Directive) : Limits E (liftM (p.add d)) := by
  intro s hs
  rcases d with major | ⟨handle, address⟩ | _
  · rw [Prologue.add]
    split
    · exact .error hmalformed
    · exact .ok hs
  · rw [Prologue.add]
    split
    · exact .error hmalformed
    · exact .ok hs
  · exact .ok hs

theorem limits_prologue (p : Prologue) (fuel : Nat) : Limits E (prologue p fuel) := by
  induction fuel generalizing p with
  | zero => exact .give p
  | succ fuel ih =>
      rw [prologue]
      refine (limits_peek hmalformed).andThen fun next => ?_
      split
      · exact limits_drop.andThen fun _ => (limits_addDirective hmalformed p _).andThen ih
      · exact .give p

theorem limits_documentStart (fuel : Nat) : Limits E (documentStart fuel) :=
  (limits_prologue hmalformed {} fuel).andThen fun _ =>
    (limits_expect hmalformed _).andThen fun _ => .give _

theorem limits_explicitDocument (fuel : Nat) : Limits E (explicitDocument fuel) := by
  refine (limits_documentStart hmalformed fuel).andThen fun handles => ?_
  refine (limits_peek hmalformed).andThen fun next => ?_
  split
  all_goals first | exact limits_emptyNode hmalformed |
    exact (nodeLimits hmalformed handles fuel).node .block

theorem limits_dropDocumentEnds (fuel : Nat) : Limits E (dropDocumentEnds fuel) := by
  induction fuel with
  | zero => exact .give ()
  | succ fuel ih =>
      rw [dropDocumentEnds]
      refine (limits_accept hmalformed _).andThen fun accepted => ?_
      split
      · exact ih
      · exact .give ()

theorem limits_documentEnd (fuel : Nat) : Limits E (documentEnd fuel) := by
  refine (limits_dropDocumentEnds hmalformed fuel).andThen fun _ => ?_
  refine (limits_accept hmalformed _).andThen fun accepted => ?_
  split
  · exact (limits_documentStart hmalformed fuel).andThen fun _ => .throw hmalformed
  · exact .give ()

theorem limits_onlyDocument (fuel : Nat) : Limits E (onlyDocument fuel) := by
  have hroot {p : Parser NodeId} (hp : Limits E p) : Limits E (do
      let root ← p
      documentEnd fuel
      return some root) :=
    hp.andThen fun _ => (limits_documentEnd hmalformed fuel).andThen fun _ => .give _
  refine (limits_peek hmalformed).andThen fun next => ?_
  split
  · exact .give none
  · split
    · exact hroot (limits_explicitDocument hmalformed fuel)
    · exact hroot (limits_explicitDocument hmalformed fuel)
    · exact hroot ((nodeLimits hmalformed standardHandles fuel).node .block)

/-- Where no nodes are found, the text is malformed or there is a fault in
the place of a token. -/
theorem fault_of_ofTokens {tokens : List Token} (h : ∀ fault, .broken fault ∈ tokens → E fault)
    {fault : Fault} (hfault : Nodes.ofTokens tokens = .error fault) : E fault := by
  rw [Nodes.ofTokens] at hfault
  rcases bind_eq_error_iff.mp hfault with hrun | ⟨_, -, hnone⟩
  · rw [StateT.run] at hrun
    exact (hrun ▸ limits_onlyDocument hmalformed _ { tokens } h).of_error
  · cases hnone

end

end TerseSchema.Yaml
