import TerseSchema.Yaml.Node.Basic
import TerseSchema.Yaml.Resolution
import TerseSchema.Yaml.Token
/-!
# Nodes of token lists

Reading the nodes of a document from its tokens. A node that is missing, as after the sign of a
value, is the empty plain scalar.
-/

namespace TerseSchema.Yaml

structure ParserState where
  tokens : List Token
  nodes : Nodes := #[]
  anchors : List (String × NodeId) := []

abbrev Parser := StateT ParserState (Except Fault)

namespace Parser

/-- The next token; a fault in its place ends the reading. -/
def peek : Parser Token := fun s =>
  match s.tokens with
  | [] => .error .malformed
  | .broken fault :: _ => .error fault
  | t :: _ => .ok (t, s)

def drop : Parser Unit := fun s => .ok ((), { s with tokens := s.tokens.drop 1 })

def accept (token : Token) : Parser Bool := do
  if (← peek) = token then
    drop
    return true
  else return false

def expect (token : Token) : Parser Unit := do
  if !(← accept token) then throw .malformed

def lookup (name : String) : Parser NodeId := fun s =>
  match s.anchors.find? (·.1 = name) with
  | some (_, id) => .ok (id, s)
  | none => .error .malformed

def add (anchor : Option String) (node : Node) : Parser NodeId := fun s =>
  let id := s.nodes.size
  let s := { s with nodes := s.nodes.push node }
  match anchor with
  | none => .ok (id, s)
  | some name =>
    if s.anchors.any (·.1 = name) then .error .malformed
    else .ok (id, { s with anchors := (name, id) :: s.anchors })

def complete (id : NodeId) (content : NodeContent) : Parser Unit := fun s =>
  .ok ((), { s with nodes := s.nodes.setContent id content })

end Parser

open TerseSchema.Yaml.Parser

abbrev Handles := List (String × String)

def standardHandles : Handles := [("!", "!"), ("!!", standardAddress)]

structure Properties where
  anchor : Option String := none
  tag : Option String := none

def expandTag (handles : Handles) :
    Option (Option String × String) → Except Fault (Option String)
  | none => .ok none
  | some (none, suffix) => .ok (some suffix)
  | some (some handle, suffix) =>
    match handles.find? (·.1 = handle) with
    | some (_, address) => .ok (some (address ++ suffix))
    | none => .error .malformed

def optionalAnchor : Parser (Option String) := do
  match ← peek with
  | .anchor name =>
    drop
    return some name
  | _ => return none

def optionalTag : Parser (Option (Option String × String)) := do
  match ← peek with
  | .tag handle suffix =>
    drop
    return some (handle, suffix)
  | _ => return none

def properties (handles : Handles) : Parser Properties := do
  match ← optionalAnchor with
  | some anchor => return { anchor := some anchor, tag := ← expandTag handles (← optionalTag) }
  | none =>
    match ← optionalTag with
    | none => return {}
    | some tag =>
      let anchor ← optionalAnchor
      return { anchor, tag := ← expandTag handles (some tag) }

/-- The tag that says no more than that a scalar is to be read as if it were plain. -/
def plainMark : String := "!"

/-- The node of a scalar: its tag is given, or found in its text, or that of strings. -/
def scalarNode (tag : Option String) (isPlain : Bool) (text : Text) : Node :=
  match tag with
  | some tag => ⟨if tag = plainMark then resolve text else tag, .scalar text⟩
  | none => ⟨if isPlain then resolve text else strTag, .scalar text⟩

def emptyNode : Parser NodeId := add none (scalarNode none true [])

def collectionTag (tag : Option String) (standard : String) : String :=
  match tag with
  | some tag => if tag = plainMark then standard else tag
  | none => standard

def bareNode (given : Properties) : Parser NodeId := do
  if given.anchor.isNone && given.tag.isNone then throw .malformed
  add given.anchor (scalarNode given.tag true [])

def sequenceNode (given : Properties) (items : Parser (List NodeId)) : Parser NodeId := do
  let id ← add given.anchor ⟨collectionTag given.tag seqTag, .sequence []⟩
  complete id (.sequence (← items))
  return id

def mappingNode (given : Properties) (entries : Parser (List NodeEntry)) : Parser NodeId := do
  let id ← add given.anchor ⟨collectionTag given.tag mapTag, .mapping []⟩
  complete id (.mapping (← entries))
  return id

/-- The places where a node may stand: in a flow collection, in a block, or after a key or value
sign of a block, where a sequence needs no indentation. -/
inductive Place where
  | flow
  | block
  | value
deriving DecidableEq

mutual

def node (handles : Handles) (place : Place) : Nat → Parser NodeId
  | 0 => throw .malformed
  | fuel + 1 => do
    match ← peek with
    | .alias name =>
      drop
      lookup name
    | _ =>
      let given ← properties handles
      match ← peek with
      | .scalar text isPlain =>
        drop
        add given.anchor (scalarNode given.tag isPlain text)
      | .flowSequenceStart => sequenceNode given (drop *> flowItems handles true fuel)
      | .flowMappingStart => mappingNode given (drop *> flowEntries handles true fuel)
      | .blockSequenceStart =>
        if place = .flow then bareNode given
        else sequenceNode given (drop *> blockItems handles fuel)
      | .blockMappingStart =>
        if place = .flow then bareNode given
        else mappingNode given (drop *> blockEntries handles fuel)
      | .blockEntry =>
        if place = .value then sequenceNode given (hangingItems handles fuel)
        else bareNode given
      | _ => bareNode given

def nodeUnless (handles : Handles) (place : Place) (ends : List Token) : Nat → Parser NodeId
  | 0 => throw .malformed
  | fuel + 1 => do
    if ends.contains (← peek) then emptyNode else node handles place fuel

def blockItems (handles : Handles) : Nat → Parser (List NodeId)
  | 0 => throw .malformed
  | fuel + 1 => do
    if ← accept .blockEntry then
      let item ← nodeUnless handles .block [.blockEntry, .blockEnd] fuel
      return item :: (← blockItems handles fuel)
    else
      expect .blockEnd
      return []

/-- The items of a block sequence without indentation. -/
def hangingItems (handles : Handles) : Nat → Parser (List NodeId)
  | 0 => throw .malformed
  | fuel + 1 => do
    if ← accept .blockEntry then
      let item ← nodeUnless handles .block [.blockEntry, .key, .value, .blockEnd] fuel
      return item :: (← hangingItems handles fuel)
    else return []

def blockEntries (handles : Handles) : Nat → Parser (List NodeEntry)
  | 0 => throw .malformed
  | fuel + 1 => do
    let ends := [.key, .value, .blockEnd]
    if ← accept .key then
      let key ← nodeUnless handles .value ends fuel
      let value ← if ← accept .value then nodeUnless handles .value ends fuel else emptyNode
      return (key, value) :: (← blockEntries handles fuel)
    else
      expect .blockEnd
      return []

def flowValue (handles : Handles) (closing : Token) : Nat → Parser NodeId
  | 0 => throw .malformed
  | fuel + 1 => do
    if ← accept .value then nodeUnless handles .flow [.flowEntry, closing] fuel
    else emptyNode

def flowPair (handles : Handles) : Nat → Parser (List NodeEntry)
  | 0 => throw .malformed
  | fuel + 1 => do
    let key ← nodeUnless handles .flow [.value, .flowEntry, .flowSequenceEnd] fuel
    let value ← flowValue handles .flowSequenceEnd fuel
    return [(key, value)]

/-- The items of a flow sequence. An entry of a mapping is an item of its own. -/
def flowItems (handles : Handles) (isFirst : Bool) : Nat → Parser (List NodeId)
  | 0 => throw .malformed
  | fuel + 1 => do
    if ← accept .flowSequenceEnd then return []
    if !isFirst then expect .flowEntry
    match ← peek with
    | .key =>
      drop
      let item ← mappingNode {} (flowPair handles fuel)
      return item :: (← flowItems handles false fuel)
    | .flowSequenceEnd =>
      drop
      return []
    | _ =>
      let item ← node handles .flow fuel
      return item :: (← flowItems handles false fuel)

def flowEntries (handles : Handles) (isFirst : Bool) : Nat → Parser (List NodeEntry)
  | 0 => throw .malformed
  | fuel + 1 => do
    if ← accept .flowMappingEnd then return []
    if !isFirst then expect .flowEntry
    match ← peek with
    | .key =>
      drop
      let key ← nodeUnless handles .flow [.value, .flowEntry, .flowMappingEnd] fuel
      let value ← flowValue handles .flowMappingEnd fuel
      return (key, value) :: (← flowEntries handles false fuel)
    | .flowMappingEnd =>
      drop
      return []
    | _ =>
      let key ← node handles .flow fuel
      let value ← emptyNode
      return (key, value) :: (← flowEntries handles false fuel)

end

/-! ## Documents -/

structure Prologue where
  hasVersion : Bool := false
  handles : Handles := []

/-- What is known after another directive. The version is told once, and is one that can be read;
a handle is told once. -/
def Prologue.add (p : Prologue) : Directive → Except Fault Prologue
  | .version major =>
    if p.hasVersion || major ≠ 1 then .error .malformed else .ok { p with hasVersion := true }
  | .handle handle address =>
    if p.handles.any (·.1 = handle) then .error .malformed
    else .ok { p with handles := p.handles ++ [(handle, address)] }
  | .other => .ok p

def prologue (p : Prologue) : Nat → Parser Prologue
  | 0 => return p
  | fuel + 1 => do
    match ← peek with
    | .directive d =>
      drop
      prologue (← p.add d) fuel
    | _ => return p

def dropDocumentEnds : Nat → Parser Unit
  | 0 => return
  | fuel + 1 => do
    if ← accept .documentEnd then dropDocumentEnds fuel

def documentStart (fuel : Nat) : Parser Handles := do
  let p ← prologue {} fuel
  expect .documentStart
  return p.handles ++ standardHandles

def explicitDocument (fuel : Nat) : Parser NodeId := do
  let handles ← documentStart fuel
  match ← peek with
  | .directive _ => emptyNode
  | .documentStart => emptyNode
  | .documentEnd => emptyNode
  | .streamEnd => emptyNode
  | _ => node handles .block fuel

/-- The end of the text after a document. Another document must not come, and is
read up to its start. -/
def documentEnd (fuel : Nat) : Parser Unit := do
  dropDocumentEnds fuel
  if !(← accept .streamEnd) then
    let _ ← documentStart fuel
    throw .malformed

def onlyDocument (fuel : Nat) : Parser (Option NodeId) := do
  match ← peek with
  | .streamEnd => return none
  | next =>
    let root ← match next with
      | .directive _ => explicitDocument fuel
      | .documentStart => explicitDocument fuel
      | _ => node standardHandles .block fuel
    documentEnd fuel
    return some root

def Nodes.ofTokens (tokens : List Token) : Except Fault (Nodes × Option NodeId) := do
  let (root, s) ← (onlyDocument (3 * tokens.length + 3)).run { tokens }
  return (s.nodes, root)

end TerseSchema.Yaml
