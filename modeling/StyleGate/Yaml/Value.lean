import Std.Data.HashMap
import StyleGate.Config.Value
import StyleGate.Yaml.Node
import StyleGate.Yaml.ScalarValue

/-!
The value of a document. Every node makes one cell, whatever number of aliases it has. A scalar has
its value at once. A collection is only opened when it is met, and filled when its turn comes: the
collections wait in a queue, so of several faults the one met first in this order counts. A mapping
is flattened right before it is filled, which takes the merge keys out of it and out of the mappings
merged into it for good.
-/

namespace StyleGate.Yaml

open Config

/-- What is known while values are made: the nodes, the cells that they made, and the collections
that were opened and not yet filled, last first. -/
structure Builder where
  nodes : Array Node
  cells : Array (Option (Layer Nat))
  opened : List Nat

abbrev Build := StateT Builder (Except Fault)

namespace Build

def malformedAt {α : Type} (m : Mark) : Build α := throw (.malformed m)

/-- How many turns a chain of merges or default values may have. -/
def longestChain : Nat := 970

def node (n : Nat) : Build Node := do
  return ((← get).nodes[n]?).getD ⟨.null, .scalar [], ⟨0, 0⟩⟩

def tag (n : Nat) : Build Tag := return (← node n).tag

/-- The entries of a mapping. -/
def entries (n : Nat) : Build (List (Nat × Nat)) := do
  match (← node n).content with
  | .mapping entries => return entries
  | _ => return []

def setNode (n : Nat) (change : Node → Node) : Build Unit :=
  modify fun b => { b with nodes := b.nodes.modify n change }

def setEntries (n : Nat) (entries : List (Nat × Nat)) : Build Unit :=
  setNode n fun node => { node with content := .mapping entries }

def setCell (n : Nat) (layer : Layer Nat) : Build Unit :=
  modify fun b => { b with cells := b.cells.setIfInBounds n (some layer) }

/-- The first entry of a list with a merge key, between those before and after it. -/
def firstMerge (nodes : Array Node) (before : List (Nat × Nat)) :
    List (Nat × Nat) → Option (List (Nat × Nat) × Nat × List (Nat × Nat))
  | [] => none
  | (k, v) :: rest =>
    if (nodes[k]?).any fun node => node.tag == .merge then some (before.reverse, v, rest)
    else firstMerge nodes ((k, v) :: before) rest

/-- The lists of entries that a value of a merge key stands for: those of one mapping, or of the
mappings in a list, the last first. -/
def mergedParts (flatten : Nat → Build Unit) (v : Nat) : Build (List (List (Nat × Nat))) := do
  let value ← node v
  match value.content with
  | .mapping _ => do
    flatten v
    return [← entries v]
  | .sequence items =>
    items.foldlM (fun parts item => do
      let member ← node item
      match member.content with
      | .mapping _ => do
        flatten item
        return (← entries item) :: parts
      | _ => malformedAt member.start) []
  | .scalar _ => malformedAt value.start

/-- Takes the merge keys out of a mapping one after the other and gathers what they stand for, last
part first. -/
def takeMerges (flatten : Nat → Build Unit) (n fuel : Nat) (parts : List (List (Nat × Nat))) :
    Build (List (List (Nat × Nat))) := do
  match fuel with
  | 0 => return parts
  | fuel + 1 =>
    match firstMerge (← get).nodes [] (← entries n) with
    | none => return parts
    | some (before, v, after) =>
      setEntries n (before ++ after)
      takeMerges flatten n fuel ((← mergedParts flatten v).reverse ++ parts)

/-- Flattens a mapping: what is merged into it comes before its own entries, and a key that looks
like that of a default value is plain text. -/
def flatten (depth n : Nat) : Build Unit := do
  match depth with
  | 0 => throw .tooDeep
  | depth + 1 =>
    let parts ← takeMerges (flatten depth) n ((← entries n).length + 1) []
    let own ← entries n
    own.forM fun (k, _) => do
      if (← tag k) == .default then setNode k fun node => { node with tag := .str }
    setEntries n (parts.reverse.flatten ++ own)

/-- The text that stands for a node where a scalar is asked for: a mapping may hold it under the key
of the default value. -/
def scalarText (fuel n : Nat) : Build Text := do
  match fuel with
  | 0 => throw .tooDeep
  | fuel + 1 =>
    let given ← node n
    match given.content with
    | .scalar text => return text
    | .sequence _ => malformedAt given.start
    | .mapping entries =>
      let nodes := (← get).nodes
      match entries.find? fun (k, _) => (nodes[k]?).any fun node => node.tag == .default with
      | some (_, v) => scalarText fuel v
      | none => malformedAt given.start

def isScalar : Content → Bool
  | .scalar _ => true
  | _ => false

/-- The empty collection that a node of this kind opens. -/
def opening? : Tag → Option (Layer Nat)
  | .seq => some (.list [])
  | .orderedMap => some (.list [])
  | .pairs => some (.list [])
  | .map => some (.map [])
  | .set => some (.set [])
  | _ => none

/-- The kind has no values. -/
def isHollow (t : Tag) : Bool := t == .merge || t == .default || t == .other

/-- Makes the cell of a node, if there is none yet. -/
def make (n : Nat) : Build Unit := do
  if (((← get).cells[n]?).join).isSome then return ()
  let given ← node n
  match opening? given.tag with
  | some layer =>
    setCell n layer
    modify fun b => { b with opened := n :: b.opened }
  | none =>
    if isHollow given.tag then malformedAt given.start
    let text ← scalarText longestChain n
    let scalar ← (scalarValue given.tag text given.start n (isScalar given.content) :)
    setCell n (.scalar scalar)

/-- The scalar that a node makes as a key. -/
def makeKey (k : Nat) : Build Scalar := do
  make k
  match ((← get).cells[k]?).join with
  | some (.scalar s) => return s
  | _ => malformedAt (← node k).start

/-- The entries gathered so far, in order, and the places of those whose keys are text. -/
structure Gathered where
  entries : Array (Scalar × Nat)
  places : Std.HashMap String Nat

namespace Gathered

/-- The place of an entry with the same key. -/
def place? (g : Gathered) (key : Scalar) : Option Nat :=
  match key with
  | .text s => g.places[s]?
  | key => g.entries.findIdx? fun (k, _) => k.same key

/-- A key that is there already keeps its place and its form and gets the new value. -/
def insert (g : Gathered) (key : Scalar) (value : Nat) : Gathered :=
  match g.place? key with
  | some i => { g with entries := g.entries.modify i fun (k, _) => (k, value) }
  | none =>
    let size := g.entries.size
    match key with
    | .text s => ⟨g.entries.push (key, value), g.places.insert s size⟩
    | _ => ⟨g.entries.push (key, value), g.places⟩

end Gathered

/-- The entries of a mapping, flattened first. -/
def makeEntries (n : Nat) : Build (List (Scalar × Nat)) := do
  let given ← node n
  if !(given.content matches .mapping _) then malformedAt given.start
  flatten longestChain n
  let gathered ← (← entries n).foldlM (fun g (k, v) => do
    let key ← makeKey k
    make v
    return g.insert key v) (⟨#[], ∅⟩ : Gathered)
  return gathered.entries.toList

/-- The members of a sequence. -/
def items (n : Nat) : Build (List Nat) := do
  let given ← node n
  match given.content with
  | .sequence items => return items
  | _ => malformedAt given.start

/-- A cell for the pair in a mapping with one entry. -/
def makePair (n : Nat) : Build Nat := do
  let given ← node n
  match given.content with
  | .mapping [(k, v)] =>
    make k
    make v
    modifyGet fun b => (b.cells.size, { b with cells := b.cells.push (some (.pair k v)) })
  | _ => malformedAt given.start

/-- Fills a collection that was opened. -/
def fill (n : Nat) : Build Unit := do
  match ← tag n with
  | .map => do setCell n (.map (← makeEntries n))
  | .set => do setCell n (.set ((← makeEntries n).map Prod.fst))
  | .seq => do
    let members ← items n
    members.forM make
    setCell n (.list members)
  | _ => do setCell n (.list (← (← items n).mapM makePair))

/-- Fills the collections that wait, and then those that they opened. Every node is opened at most
once, so there are no more rounds than nodes. -/
def fillAll (rounds : Nat) : Build Unit := do
  match rounds with
  | 0 => return ()
  | rounds + 1 =>
    let waiting := (← get).opened.reverse
    if waiting.isEmpty then return ()
    modify fun b => { b with opened := [] }
    waiting.forM fill
    fillAll rounds

end Build

/-- The value of a graph. -/
def Graph.value (g : Graph) : Except Fault Value := do
  let build : Build Unit := do
    Build.make g.root
    Build.fillAll (g.nodes.size + 1)
  let (_, b) ← build.run ⟨g.nodes, Array.replicate g.nodes.size none, []⟩
  return ⟨b.cells.map fun cell => cell.getD (.scalar .null), g.root⟩

/-- The value of the one document in a stream; an empty stream has none. -/
def value? (s : Stream) : Except Fault (Option Value) := do
  match ← Graph.ofStream s with
  | none => return none
  | some g => return some (← g.value)

/-- What a reader of YAML makes of a stream: the value of the one document in it, if there is any,
or a fault. -/
abbrev Reader := Stream → Except Fault (Option Value)

def reader : Reader := fun s => value? s.screen

end StyleGate.Yaml
