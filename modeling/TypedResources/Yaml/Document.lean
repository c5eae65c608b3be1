import TypedResources.Yaml.Graph
import TypedResources.Yaml.Scalar

-- The values of a document. They are worked out level by level from the root on, each node once, so
-- the fault nearest to the root is the one that is found. Before a mapping is looked into, the
-- entries that it merges are put in front of its own, which win over them.

namespace TypedResources.Yaml

-- Every node's value, as far as it is worked out, and the collections that wait to be looked into.
structure Builder where
  nodes  : Nodes
  values : Array (Option Value)
  queue  : List NodeId := []

abbrev Build := StateT Builder (Except Fault)

namespace Build

def node (i : NodeId) : Build Node := do
  return (← get).nodes.get i

def setNode (i : NodeId) (n : Node) : Build Unit :=
  modify fun b => { b with nodes := b.nodes.modify i fun _ => n }

def setValue (i : NodeId) (v : Value) : Build Unit :=
  modify fun b => { b with values := b.values.modify i fun _ => some v }

def value? (i : NodeId) : Build (Option Value) := do
  return (← get).values[i]?.join

def entries? (i : NodeId) : Build (List (NodeId × NodeId)) := do
  match (← node i).content with
  | .mapping entries => return entries
  | _                => throw .malformed

def items? (i : NodeId) : Build (List NodeId) := do
  match (← node i).content with
  | .sequence items => return items
  | _               => throw .malformed

-- Puts the entries that a mapping merges in front of its own. Of several merged mappings the first
-- one wins, so it comes last. `fuel` bounds how many mappings are nested by merging.
def flatten : Nat → NodeId → Build Unit
  | 0,        _ => throw .malformed
  | fuel + 1, i => do
    let entries ← entries? i
    let keyed ← entries.mapM fun e => return ((← node e.1).tag, e)
    let own := (keyed.filter (·.1 ≠ .merge)).map Prod.snd
    setNode i { ← node i with content := .mapping own }
    for (tag, e) in keyed do
      if tag = .value then setNode e.1 { ← node e.1 with tag := .string }
    let merged ← ((keyed.filter (·.1 = .merge)).map (·.2.2)).mapM fun v => do
      match (← node v).content with
      | .sequence items => return ((← items.mapM (flattened fuel)).reverse).flatten
      | _               => flattened fuel v
    setNode i { ← node i with content := .mapping (merged.flatten ++ own) }
where
  flattened (fuel : Nat) (i : NodeId) : Build (List (NodeId × NodeId)) := do
    let _ ← entries? i
    flatten fuel i
    entries? i

-- The text of a scalar; a mapping has the text that it holds under the key `=`. `fuel` bounds how
-- many mappings are passed through.
def scalarText : Nat → NodeId → Build Text.Points
  | 0,        _ => throw .malformed
  | fuel + 1, i => do
    match (← node i).content with
    | .scalar text     => return text
    | .sequence _      => throw .malformed
    | .mapping entries =>
      match ← entries.filterM fun e => return (← node e.1).tag = .value with
      | (_, v) :: _ => scalarText fuel v
      | []          => throw .malformed

def wait (i : NodeId) (v : Value) : Build Unit := do
  setValue i v
  modify fun b => { b with queue := b.queue ++ [i] }

-- Works out a node, of a collection only that it is one.
def visit (i : NodeId) : Build Unit := do
  if (← value? i).isSome then return
  match (← node i).tag with
  | .sequence   => wait i (.list [])
  | .mapping    => wait i (.mapping [])
  | .set        => wait i .set
  | .orderedMap => wait i .pairs
  | .pairs      => wait i .pairs
  | .merge      => throw .malformed
  | .value      => throw .malformed
  | .unknown    => throw .malformed
  | tag         =>
    let text ← scalarText ((← get).nodes.size + 1) i
    -- A moment is read from the text of the node itself.
    if tag = .timestamp && !(← node i).content.isScalar then throw (.calendar .noText)
    setValue i (← Scalar.value tag text)

def visitEntry (e : NodeId × NodeId) : Build Unit := do
  visit e.1
  if !((← value? e.1).any Value.isKey) then throw .malformed
  visit e.2

-- Looks into a collection.
def expand (i : NodeId) : Build Unit := do
  match (← node i).tag with
  | .sequence =>
    let items ← items? i
    items.forM visit
    setValue i (.list items)
  | .mapping =>
    flatten ((← get).nodes.size + 1) i
    let entries ← entries? i
    entries.forM visitEntry
    setValue i (.mapping entries)
  | .set =>
    flatten ((← get).nodes.size + 1) i
    (← entries? i).forM visitEntry
  | _ =>
    for item in ← items? i do
      match ← entries? item with
      | [(k, v)] => visit k; visit v
      | _        => throw .malformed

-- Every node waits at most once.
def expandAll : Nat → Build Unit
  | 0        => return
  | fuel + 1 => do
    match (← get).queue with
    | []     => return
    | i :: t =>
      modify ({ · with queue := t })
      expand i
      expandAll fuel

end Build

structure Document where
  values : Array (Option Value)
  root   : Option NodeId

namespace Document

def value (d : Document) (i : NodeId) : Value :=
  (d.values[i]?.join).getD .null

def rootValue (d : Document) : Value :=
  (d.root.map d.value).getD .null

-- The value under a key of a mapping. Of entries with the same key the last one counts.
def get (d : Document) (key : String) : Value → Value
  | .mapping entries =>
    match entries.reverse.find? fun e => d.value e.1 = .text (Text.Points.ofString key) with
    | some e => d.value e.2
    | none   => .null
  | _ => .null

def ofText (text : List Char) : Except Fault Document := do
  let (nodes, root) ← compose text
  match root with
  | none   => return ⟨#[], none⟩
  | some i =>
    let start : Builder := { nodes := nodes, values := Array.replicate nodes.size none }
    let (_, b) ← (do Build.visit i; Build.expandAll (nodes.size + 1) : Build Unit).run start
    return ⟨b.values, some i⟩

end Document

end TypedResources.Yaml
