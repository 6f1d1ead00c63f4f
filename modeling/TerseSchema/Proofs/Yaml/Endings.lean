import TerseSchema.Proofs.Yaml.Faults
import TerseSchema.Proofs.Yaml.Merging
import TerseSchema.Yaml.Document
/-!
# How reading a text ends

A text whose tokens are there and whose nodes suit their tags has a value, or it is malformed.
-/

namespace TerseSchema.Yaml

variable {isMerge isMapping : NodeId → Bool} {nodes : Nodes} {id : NodeId}
  {fault : Fault} {α : Type}

/-! ## Scalars -/

theorem isMalformed_of_scalarValue {node : Node} (hsuits : node.SuitsTag)
    (hnode : nodes[id]? = some node) (mark : Nat)
    (h : nodes.scalarValue mark id node = .error fault) : fault.IsMalformed := by
  obtain ⟨tag, content⟩ := node
  rw [Nodes.scalarValue] at h
  split at h
  · exact (Except.error.inj h).symm
  · next htag =>
      rw [Nodes.defaultText, hnode] at h
      cases content with
      | scalar text => exact hsuits mark fault h
      | sequence ids => exact (Except.error.inj h).symm
      | mapping entries =>
        exact absurd (by simpa using htag) (List.not_mem_of_not_mem_cons hsuits)

/-! ## Building -/

/-- Whether what is left to do can be done without a fault other than
that of a malformed text. -/
def Fillable (isMerge isMapping : NodeId → Bool) (s : BuildState) : Prop :=
  ∃ n, Mergeable isMerge isMapping n s.nodes ∧ 2 * n + 2 ≤ s.mergeFuel

abbrev Builds (isMerge isMapping : NodeId → Bool) (p : Build α) : Prop :=
  Ends (Fillable isMerge isMapping) Fault.IsMalformed (fun _ => Fillable isMerge isMapping) p

theorem builds_pure (a : α) : Builds isMerge isMapping (pure a) := .pure fun _ h => h

theorem builds_throw : Builds isMerge isMapping (throw .malformed : Build α) := .throw rfl

theorem builds_get : Builds isMerge isMapping get :=
  Ends.get.mono (fun _ h => h) fun _ _ h => h.2

theorem builds_part (id : NodeId) : Builds isMerge isMapping (Build.part id) := by
  intro s ⟨n, h, hfuel⟩
  rw [Build.part]
  split
  · exact .ok ⟨n, h, hfuel⟩
  · exact .error rfl
  · next node _ hnode =>
      dsimp only
      split
      · exact .ok ⟨n, h, hfuel⟩
      · cases hvalue : s.nodes.scalarValue (s.marks + id) id node with
        | ok v => exact .ok ⟨n, h, hfuel⟩
        | error fault =>
          exact .error (isMalformed_of_scalarValue (h.suits id node hnode) hnode _ hvalue)

theorem builds_keyPart (id : NodeId) : Builds isMerge isMapping (Build.keyPart id) := by
  refine (builds_part id).bind fun part => ?_
  split
  · exact builds_pure _
  · exact builds_throw

theorem builds_mapEntries (id : NodeId) : Builds isMerge isMapping (Build.mapEntries id) := by
  rw [Build.mapEntries]
  refine Ends.get.bind fun s => ?_
  rintro _ ⟨rfl, n, h, hfuel⟩
  have hends : EndsAs _ _ ((Merging.mergeInto id s.mergeFuel).run s.nodes) :=
    (mergingEnds isMerge isMapping s.mergeFuel).mergeInto n id hfuel s.nodes h
  have hmerged :
      Ends (fun t => t = s) Fault.IsMalformed (fun r _ => Mergeable isMerge isMapping n r.2)
      (liftM ((Merging.mergeInto id s.mergeFuel).run s.nodes) :
        Build (List NodeEntry × Nodes)) := by
    refine .lift (fun r hr _ _ => ?_) fun fault hfault => ?_
    · exact (hr ▸ hends).of_ok.1
    · exact (hfault ▸ hends).of_error
  refine Ends.bind hmerged (fun r => ?_) s rfl
  refine Ends.bind (Q := fun _ => Fillable isMerge isMapping)
    (fun _ hr => .ok ⟨n, hr, hfuel⟩) fun _ => ?_
  refine .foldlM (fun done e _ => ?_) []
  exact (builds_keyPart e.1).bind fun _ => (builds_part e.2).bind fun _ => builds_pure _

theorem builds_sequenceItems (id : NodeId) :
    Builds isMerge isMapping (Build.sequenceItems id) := by
  refine builds_get.bind fun s => ?_
  split
  · exact builds_pure _
  · exact builds_throw

theorem builds_pair (id : NodeId) : Builds isMerge isMapping (Build.pair id) := by
  refine builds_get.bind fun s => ?_
  split
  · exact (builds_part _).bind fun _ => (builds_part _).bind fun _ => builds_pure _
  · exact builds_throw

theorem builds_mapM {β : Type} {f : α → Build β} (h : ∀ a, Builds isMerge isMapping (f a))
    (xs : List α) :
    Builds isMerge isMapping (xs.mapM f) :=
  (Ends.mapM (S := fun _ => True) fun a _ => (h a).mono (fun _ h => h) fun _ _ h =>
    ⟨h, trivial⟩).mono
    (fun _ h => h) fun _ _ h => h.1

theorem builds_filling (id : NodeId) : Builds isMerge isMapping (Build.filling id) := by
  refine builds_get.bind fun s => ?_
  dsimp only
  split
  · exact (builds_sequenceItems id).bind fun items =>
      (builds_mapM builds_part items).bind fun _ => builds_pure _
  · split
    · exact (builds_mapEntries id).bind fun _ => builds_pure _
    · split
      · exact (builds_mapEntries id).bind fun _ => builds_pure _
      · exact (builds_sequenceItems id).bind fun items =>
          (builds_mapM builds_pair items).bind fun _ => builds_pure _

theorem builds_fill (id : NodeId) : Builds isMerge isMapping (Build.fill id) :=
  (builds_filling id).bind fun _ _ h => .ok h

theorem builds_fillLevels (fuel : Nat) : Builds isMerge isMapping (Build.fillLevels fuel) := by
  induction fuel with
  | zero => exact builds_pure ()
  | succ fuel ih =>
      rw [Build.fillLevels]
      refine builds_get.bind fun s => ?_
      dsimp only
      split
      · exact builds_pure ()
      · refine Ends.bind (Q := fun _ => Fillable isMerge isMapping)
          (fun _ h => .ok h) fun _ => ?_
        exact (Ends.forM fun id _ => builds_fill id).bind fun _ => ih

theorem builds_root (id : NodeId) : Builds isMerge isMapping (Build.root id) :=
  (builds_part id).bind fun part => builds_get.bind fun _ => (builds_fillLevels _).bind fun _ =>
    builds_pure part

/-- Where all nodes suit their tags, a document has a value or is malformed. -/
theorem isMalformed_of_value (hsuits : ∀ node ∈ nodes, node.SuitsTag) (marks : Nat)
    (root : NodeId) (h : nodes.value marks root = .error fault) : fault.IsMalformed := by
  have hmergeable : Mergeable (nodes.hasTag · mergeTag) (fun id => (nodes.entries? id).isSome)
      nodes.entryCount nodes :=
    ⟨fun _ _ hnode => hsuits _ (Array.mem_of_getElem? hnode),
      mergeCount_le_entryCount _ nodes, fun _ => rfl, fun _ => rfl⟩
  rw [Nodes.value] at h
  rcases bind_eq_error_iff.mp h with hrun | ⟨_, -, hnone⟩
  · rw [StateT.run] at hrun
    exact (hrun ▸ builds_root root _ ⟨nodes.entryCount, hmergeable, Nat.le_refl _⟩).of_error
  · cases hnone

/-! ## Texts -/

/-- Whether a text is regular: no token of it has a fault of its own, and all
nodes suit their tags. -/
structure IsRegular (text : Text) : Prop where
  tokens : ∀ cs, text.chars? = some cs → ∀ fault, .broken fault ∈ Token.ofText cs →
    fault.IsMalformed
  nodes : ∀ cs, text.chars? = some cs → ∀ nodes root,
    Nodes.ofTokens (Token.ofText cs) = .ok (nodes, root) → ∀ node ∈ nodes, node.SuitsTag

/-- A regular text has a value, or it is malformed. -/
theorem isMalformed_of_load {text : Text} (hregular : IsRegular text) (marks : Nat)
    (h : load marks text = .error fault) : fault.IsMalformed := by
  rw [load] at h
  split at h
  · exact (Except.error.inj h).symm
  · next cs hcs =>
      split at h
      · rcases bind_eq_error_iff.mp h with hnone | ⟨⟨nodes, root⟩, hread, hvalue⟩
        · exact fault_of_ofTokens (show Fault.malformed.IsMalformed from rfl)
            (hregular.tokens cs hcs) hnone
        · cases root with
          | none => cases hvalue
          | some root =>
            exact isMalformed_of_value (hregular.nodes cs hcs nodes _ hread) marks root hvalue
      · exact (Except.error.inj h).symm

end TerseSchema.Yaml
