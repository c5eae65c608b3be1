import TypedResources.Yaml.Tag
import TypedResources.Yaml.Token

-- The nodes of a document. An alias is a second way to the node that its anchor marks, so nodes have
-- numbers and refer to each other by them; a node may even be among its own descendants.

namespace TypedResources.Yaml

abbrev NodeId := Nat

inductive Content
  | scalar (text : Text.Points)
  | sequence (items : List NodeId)
  | mapping (entries : List (NodeId × NodeId))
deriving DecidableEq

def Content.isScalar : Content → Bool
  | scalar _ => true
  | _        => false

structure Node where
  tag     : Tag
  content : Content
deriving DecidableEq

-- Nodes by number. There is nothing behind a number that is not in use.
abbrev Nodes := Array Node

def Nodes.get (g : Nodes) (i : NodeId) : Node :=
  g[i]?.getD ⟨.unknown, .sequence []⟩

-- What is left of the tokens, and the nodes found so far.
structure Composer where
  tokens  : List Token
  -- What is wrong behind the last token.
  fault   : Fault
  handles : List (List Char × List Char)
  nodes   : Nodes
  anchors : List (List Char × NodeId)

abbrev Compose := StateT Composer (Except Fault)

namespace Compose

def peek : Compose Token := do
  match (← get).tokens with
  | t :: _ => return t
  | []     => throw (← get).fault

def skip : Compose Unit :=
  modify fun c => { c with tokens := c.tokens.tail }

-- Passes over a token of one kind if it is the next one; tells whether it was.
def skipIf (t : Token) : Compose Bool := do
  if (← peek) = t then
    skip
    return true
  else return false

def expect (t : Token) : Compose Unit := do
  if !(← skipIf t) then throw .malformed

def addNode (anchor : Option (List Char)) (n : Node) : Compose NodeId := do
  let c ← get
  let i := c.nodes.size
  if anchor.any fun a => (c.anchors.lookup a).isSome then throw .malformed
  set { c with
    nodes   := c.nodes.push n
    anchors := match anchor with
      | some a => (a, i) :: c.anchors
      | none   => c.anchors }
  return i

def setContent (i : NodeId) (content : Content) : Compose Unit :=
  modify fun c => { c with nodes := c.nodes.modify i ({ · with content := content }) }

-- An anchor and a tag may stand before a node, in either order.
def properties : Compose (Option (List Char) × Option (List Char)) := do
  let anchor ← anchor?
  let tag ← tag?
  let anchor ← if anchor.isNone && tag.isSome then anchor? else pure anchor
  return (anchor, ← tag.mapM fullTag)
where
  anchor? : Compose (Option (List Char)) := do
    match ← peek with
    | .anchor name => skip; return some name
    | _            => return none
  tag? : Compose (Option (Option (List Char) × List Char)) := do
    match ← peek with
    | .tag handle suffix => skip; return some (handle, suffix)
    | _                  => return none
  fullTag : Option (List Char) × List Char → Compose (List Char)
    | (none, suffix)        => return suffix
    | (some handle, suffix) => do
      match (← get).handles.lookup handle with
      | some pre => return pre ++ suffix
      | none     => throw .malformed

-- The tag of a node; one exclamation mark alone leaves it open.
def givenTag? (tag : Option (List Char)) : Option Tag :=
  (tag.filter (· ≠ ['!'])).map Tag.ofName

def scalarNode (tag : Option (List Char)) (isPlain : Bool) (text : Text.Points) : Node :=
  let byLooks := if isPlain || tag.isSome then (text.chars?.map Tag.ofPlain).getD .string else .string
  ⟨(givenTag? tag).getD byLooks, .scalar text⟩

-- A node of which nothing is written.
def emptyNode : Compose NodeId :=
  addNode none ⟨.null, .scalar []⟩

mutual

-- A node. Blocks are left out of flow collections, and a sequence without an indentation of its
-- own may only be part of a mapping. `fuel` bounds the number of calls.
def node (inBlock mayDash : Bool) : Nat → Compose NodeId
  | 0        => throw .malformed
  | fuel + 1 => do
    if let .alias name := ← peek then
      skip
      match (← get).anchors.lookup name with
      | some i => return i
      | none   => throw .malformed
    let (anchor, tag) ← properties
    let sequence : Compose NodeId :=
      addNode anchor ⟨(givenTag? tag).getD .sequence, .sequence []⟩
    let mapping : Compose NodeId :=
      addNode anchor ⟨(givenTag? tag).getD .mapping, .mapping []⟩
    match ← peek, inBlock, mayDash with
    | .scalar text isPlain, _, _ =>
      skip
      addNode anchor (scalarNode tag isPlain text)
    | .blockEntry, _, true =>
      let i ← sequence
      setContent i (.sequence (← dashItems fuel))
      return i
    | .flowSequenceStart, _, _ =>
      let i ← sequence
      skip
      setContent i (.sequence (← flowItems true fuel))
      return i
    | .flowMappingStart, _, _ =>
      let i ← mapping
      skip
      setContent i (.mapping (← flowEntries true fuel))
      return i
    | .blockSequenceStart, true, _ =>
      let i ← sequence
      skip
      setContent i (.sequence (← blockItems fuel))
      return i
    | .blockMappingStart, true, _ =>
      let i ← mapping
      skip
      setContent i (.mapping (← blockEntries fuel))
      return i
    | _, _, _ =>
      if anchor.isNone && tag.isNone then throw .malformed
      else addNode anchor (scalarNode tag true [])

-- A node unless one of these tokens is next, which leave it empty.
def nodeUnless (stops : List Token) (inBlock mayDash : Bool) : Nat → Compose NodeId
  | 0        => throw .malformed
  | fuel + 1 => do
    if stops.contains (← peek) then emptyNode else node inBlock mayDash fuel

def blockItems : Nat → Compose (List NodeId)
  | 0        => throw .malformed
  | fuel + 1 => do
    if ← skipIf .blockEntry then
      let item ← nodeUnless [.blockEntry, .blockEnd] true false fuel
      return item :: (← blockItems fuel)
    else
      expect .blockEnd
      return []

-- The items of a sequence that is indented no more than the mapping it belongs to.
def dashItems : Nat → Compose (List NodeId)
  | 0        => throw .malformed
  | fuel + 1 => do
    if ← skipIf .blockEntry then
      let item ← nodeUnless [.blockEntry, .key, .value, .blockEnd] true false fuel
      return item :: (← dashItems fuel)
    else return []

def blockEntries : Nat → Compose (List (NodeId × NodeId))
  | 0        => throw .malformed
  | fuel + 1 => do
    if ← skipIf .key then
      let key ← nodeUnless [.key, .value, .blockEnd] true true fuel
      let value ←
        if ← skipIf .value then nodeUnless [.key, .value, .blockEnd] true true fuel else emptyNode
      return (key, value) :: (← blockEntries fuel)
    else
      expect .blockEnd
      return []

-- A key and its value in a flow collection that `close` ends.
def flowEntry (close : Token) : Nat → Compose (NodeId × NodeId)
  | 0        => throw .malformed
  | fuel + 1 => do
    let key ← nodeUnless [.value, .flowEntry, close] false false fuel
    let value ←
      if ← skipIf .value then nodeUnless [.flowEntry, close] false false fuel else emptyNode
    return (key, value)

-- An item that is a key with its value is a mapping of this one entry.
def flowItems (isFirst : Bool) : Nat → Compose (List NodeId)
  | 0        => throw .malformed
  | fuel + 1 => do
    if ← skipIf .flowSequenceEnd then return []
    if !isFirst then expect .flowEntry
    if ← skipIf .flowSequenceEnd then return []
    if ← skipIf .key then
      let i ← addNode none ⟨.mapping, .mapping []⟩
      setContent i (.mapping [← flowEntry .flowSequenceEnd fuel])
      return i :: (← flowItems false fuel)
    else
      let item ← node false false fuel
      return item :: (← flowItems false fuel)

def flowEntries (isFirst : Bool) : Nat → Compose (List (NodeId × NodeId))
  | 0        => throw .malformed
  | fuel + 1 => do
    if ← skipIf .flowMappingEnd then return []
    if !isFirst then expect .flowEntry
    if ← skipIf .flowMappingEnd then return []
    let entry ←
      if ← skipIf .key then flowEntry .flowMappingEnd fuel
      else do
        let key ← node false false fuel
        pure (key, ← emptyNode)
    return entry :: (← flowEntries false fuel)

end

def standardHandles : List (List Char × List Char) :=
  [("!".toList, "!".toList), ("!!".toList, Tag.standardPrefix)]

-- The handles that directives declare. The version is given at most once and is 1.
def directives : Nat → Bool → List (List Char × List Char) → Compose (List (List Char × List Char))
  | 0,        _,          _       => throw .malformed
  | fuel + 1, hasVersion, handles => do
    match ← peek with
    | .versionDirective major =>
      skip
      if hasVersion || major ≠ 1 then throw .malformed
      directives fuel true handles
    | .tagDirective handle pre =>
      skip
      if (handles.lookup handle).isSome then throw .malformed
      directives fuel hasVersion ((handle, pre) :: handles)
    | .otherDirective =>
      skip
      directives fuel hasVersion handles
    | _ => return handles

def isDirective : Token → Bool
  | .versionDirective _ => true
  | .tagDirective ..    => true
  | .otherDirective     => true
  | _                   => false

def setHandles (handles : List (List Char × List Char)) : Compose Unit :=
  modify ({ · with handles := handles ++ standardHandles })

-- Passes over marks that end documents, up to the end of the stream.
def finish : Nat → Compose Unit
  | 0        => throw .malformed
  | fuel + 1 => do
    if ← skipIf .documentEnd then finish fuel
    else if (← peek) ≠ .streamEnd then throw .malformed

-- The root of the only document of a stream; nothing if the stream is empty.
def document (fuel : Nat) : Compose (Option NodeId) := do
  let next ← peek
  if next = .streamEnd then return none
  let root ←
    if isDirective next || next = .documentStart then do
      setHandles (← directives fuel false [])
      expect .documentStart
      let next ← peek
      if isDirective next || [.documentStart, .documentEnd, .streamEnd].contains next then emptyNode
      else node true false fuel
    else do
      setHandles []
      node true false fuel
  finish fuel
  return some root

end Compose

-- The nodes of a stream with the root of its document, if it has one.
def compose (text : List Char) : Except Fault (Nodes × Option NodeId) := do
  let (tokens, fault) := tokens text
  let start : Composer := ⟨tokens, fault.getD .malformed, [], #[], []⟩
  let (root, c) ← (Compose.document (4 * tokens.length + 8)).run start
  return (c.nodes, root)

end TypedResources.Yaml
