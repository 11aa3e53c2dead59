import Std.Data.HashMap
import StyleGate.Yaml.Tag
import StyleGate.Yaml.Token

/-!
Nodes: the graph of a document. Nodes are known by number, and an alias is the number of the node it
names, so a collection can be a member of itself. Only one document may stand in a stream.
-/

namespace StyleGate.Yaml

inductive Content where
  | scalar (text : Text)
  | sequence (items : List Nat)
  | mapping (entries : List (Nat × Nat))
  deriving DecidableEq, Repr

/-- A node and where it starts. -/
structure Node where
  tag : Tag
  content : Content
  start : Mark
  deriving DecidableEq, Repr

/-- The nodes of a document by number. -/
structure Graph where
  nodes : Array Node
  root : Nat

/-- What is known while nodes are put together: the handles of tags, the nodes so far, and the
numbers of those with a name. A collection is named before its members are known. -/
structure Assembly where
  tokens : Tokens
  handles : List (Text × Text)
  nodes : Array Node
  anchors : Std.HashMap String Nat

abbrev Assemble := StateT Assembly (Except Fault)

/-- How a node begins. -/
inductive Opening where
  | scalar (text : Text) (plain : Bool)
  /-- Only an anchor or a tag is there. -/
  | nothing
  | bareSequence
  | flowSequence
  | flowMapping
  | blockSequence
  | blockMapping

structure Head where
  anchor : Option Text
  tag : Option Text
  start : Mark
  opening : Opening

namespace Assemble

def tokenize {α : Type} (m : Tokenize α) : Assemble α := fun c => do
  let (a, t) ← m c.tokens
  return (a, { c with tokens := t })

def peek : Assemble Token := tokenize Tokenize.peek

def next : Assemble Token := tokenize Tokenize.next

def malformedAt {α : Type} (m : Mark) : Assemble α := throw (.malformed m)

def limit : Assemble Nat := return (← get).tokens.cursor.limit

/-- The handles that every document has. -/
def commonHandles : List (Text × Text) := [(['!'], ['!']), (['!', '!'], Tag.common)]

/-- An anchor and a tag, in either order, and where each starts. -/
structure Properties where
  anchor : Option Text
  tag : Option (TagName × Mark)
  start : Option Mark

def anchor? : Assemble (Option (Text × Mark)) := do
  match (← peek).kind with
  | .anchor name => return some (name, (← next).start)
  | _ => return none

def tag? : Assemble (Option (TagName × Mark)) := do
  match (← peek).kind with
  | .tag name => return some (name, (← next).start)
  | _ => return none

def properties : Assemble Properties := do
  match ← anchor? with
  | some (name, m) => return ⟨some name, ← tag?, some m⟩
  | none =>
    match ← tag? with
    | some (t, m) => return ⟨(← anchor?).map Prod.fst, some (t, m), some m⟩
    | none => return ⟨none, none, none⟩

/-- The full name of a tag, whose handle must be known. -/
def tagText (name : TagName) (m : Mark) : Assemble Text := do
  match name.handle with
  | none => return name.suffix
  | some h =>
    match (← get).handles.lookup h with
    | some expansion => return expansion ++ name.suffix
    | none => malformedAt m

/-- Reads how a node begins; the token that opens a collection stays. Block collections count only
if `block` holds, sequences without indentation of their own only if `bare` does. -/
def head (block bare : Bool) : Assemble Head := do
  let p ← properties
  let tag ← match p.tag with
    | some (name, m) => do pure (some (← tagText name m))
    | none => pure none
  let token ← peek
  let start := p.start.getD token.start
  let opening ← match token.kind with
    | .blockEntry =>
      if bare then pure Opening.bareSequence
      else if p.start.isSome then pure .nothing
      else malformedAt token.start
    | .scalar text plain => do
      let _ ← next
      pure (.scalar text plain)
    | .flowSequenceStart => pure .flowSequence
    | .flowMappingStart => pure .flowMapping
    | kind =>
      if block && kind == .blockSequenceStart then pure .blockSequence
      else if block && kind == .blockMappingStart then pure .blockMapping
      else if p.start.isSome then pure .nothing
      else malformedAt token.start
  return ⟨p.anchor, tag, start, opening⟩

/-- Without a tag of its own a node has the tag of its look. -/
def hasOwnTag (h : Head) : Option Text := h.tag.filter (· != ['!'])

def collectionTag (h : Head) (otherwise : Tag) : Tag :=
  match hasOwnTag h with
  | some t => Tag.ofName t
  | none => otherwise

def scalarTag (h : Head) (text : Text) (plain : Bool) : Tag :=
  match hasOwnTag h with
  | some t => Tag.ofName t
  | none => if plain || h.tag.isSome then Tag.ofLook text else .str

/-- Adds a node and gives its number. -/
def add (node : Node) : Assemble Nat :=
  modifyGet fun c => (c.nodes.size, { c with nodes := c.nodes.push node })

/-- A node left out is an empty plain scalar. -/
def absent (m : Mark) : Assemble Nat := add ⟨.null, .scalar [], m⟩

/-- Gives a node a name. -/
def name (anchor : Option Text) (n : Nat) : Assemble Unit :=
  match anchor with
  | none => pure ()
  | some a => modify fun c => { c with anchors := c.anchors.insert (String.ofList a) n }

def named? (anchor : Text) : Assemble (Option Nat) := do
  return (← get).anchors[String.ofList anchor]?

def fill (n : Nat) (content : Content) : Assemble Unit :=
  modify fun c => { c with nodes := c.nodes.modify n fun node => { node with content := content } }

/-- Repeats `one` until it gives nothing. -/
def collect {α : Type} (one : Assemble (Option α)) (fuel : Nat) (found : List α) :
    Assemble (List α) := do
  match fuel with
  | 0 => return found.reverse
  | fuel + 1 =>
    match ← one with
    | some a => collect one fuel (a :: found)
    | none => return found.reverse

/-- A node, unless one of these tokens shows that it was left out after the token `before`. -/
def nodeUnless (stops : List TokenKind) (before : Token) (node : Assemble Nat) : Assemble Nat := do
  if stops.contains (← peek).kind then absent before.stop else node

/-- A node after a token of this kind, if it is there; else the node was left out here. -/
def nodeAfter (kind : TokenKind) (stops : List TokenKind) (node : Assemble Nat) :
    Assemble Nat := do
  let token ← peek
  if token.kind == kind then nodeUnless stops (← next) node else absent token.start

/-- Ends a block collection, which nothing but its end can stand after. -/
def endBlock {α : Type} : Assemble (Option α) := do
  let token ← peek
  if token.kind != .blockEnd then malformedAt token.start
  let _ ← next
  return none

def blockItem (node : Assemble Nat) : Assemble (Option Nat) := do
  if (← peek).kind == .blockEntry then
    return some (← nodeUnless [.blockEntry, .blockEnd] (← next) node)
  else endBlock

def bareItem (node : Assemble Nat) : Assemble (Option Nat) := do
  if (← peek).kind == .blockEntry then
    return some (← nodeUnless [.blockEntry, .key, .value, .blockEnd] (← next) node)
  else return none

def blockPair (node : Assemble Nat) : Assemble (Option (Nat × Nat)) := do
  if (← peek).kind == .key then
    let stops := [.key, .value, .blockEnd]
    let k ← nodeUnless stops (← next) node
    return some (k, ← nodeAfter .value stops node)
  else endBlock

/-- Goes past the comma that separates the members of a flow collection; `none` at its end. -/
def flowMember {α : Type} (close : TokenKind) (started : Bool) (member : Assemble α) :
    Assemble (Option α) := do
  let finish : Assemble (Option α) := do
    let _ ← next
    return none
  let token ← peek
  if token.kind == close then finish
  else
    if started then
      if token.kind != .flowEntry then malformedAt token.start
      let _ ← next
    if (← peek).kind == close then finish else return some (← member)

/-- A member of a flow sequence: a node, or one pair as a mapping of its own, whose key and value
are one level further down. -/
def flowItem (node deeper : Assemble Nat) : Assemble Nat := do
  let token ← peek
  if token.kind == .key then
    let _ ← next
    let k ← nodeUnless [.value, .flowEntry, .flowSequenceEnd] token deeper
    let v ← nodeAfter .value [.flowEntry, .flowSequenceEnd] deeper
    add ⟨.map, .mapping [(k, v)], token.start⟩
  else node

/-- A member of a flow mapping: a key with a value, either of which may be missing. -/
def flowPair (node : Assemble Nat) : Assemble (Nat × Nat) := do
  let token ← peek
  if token.kind == .key then
    let _ ← next
    let k ← nodeUnless [.value, .flowEntry, .flowMappingEnd] token node
    return (k, ← nodeAfter .value [.flowEntry, .flowMappingEnd] node)
  else
    let k ← node
    return (k, ← absent (← peek).start)

/-- The members of a flow collection, from its opening token on. -/
def flowMembers {α : Type} (close : TokenKind) (member : Assemble α) : Assemble (List α) := do
  let _ ← next
  match ← flowMember close false member with
  | none => return []
  | some first => collect (flowMember close true member) (← limit) [first]

/-- The members of a block collection, from its opening token on. -/
def blockMembers {α : Type} (member : Assemble (Option α)) : Assemble (List α) := do
  let _ ← next
  collect member (← limit) []

/-- Puts a node together after its head, given how its members are put together in a block
collection, as keys and values of a block mapping, in a flow collection, and in a pair in one. -/
def finish (h : Head) (inBlock inPair inFlow inFlowPair : Assemble Nat) : Assemble Nat := do
  let scalar (text : Text) (plain : Bool) : Assemble Nat := do
    let n ← add ⟨scalarTag h text plain, .scalar text, h.start⟩
    name h.anchor n
    return n
  let sequence (items : Assemble (List Nat)) : Assemble Nat := do
    let n ← add ⟨collectionTag h .seq, .sequence [], h.start⟩
    name h.anchor n
    fill n (.sequence (← items))
    return n
  let mapping (entries : Assemble (List (Nat × Nat))) : Assemble Nat := do
    let n ← add ⟨collectionTag h .map, .mapping [], h.start⟩
    name h.anchor n
    fill n (.mapping (← entries))
    return n
  match h.opening with
  | .scalar text plain => scalar text plain
  | .nothing => scalar [] true
  | .bareSequence => sequence (do collect (bareItem inBlock) (← limit) [])
  | .blockSequence => sequence (blockMembers (blockItem inBlock))
  | .blockMapping => mapping (blockMembers (blockPair inPair))
  | .flowSequence => sequence (flowMembers .flowSequenceEnd (flowItem inFlow inFlowPair))
  | .flowMapping => mapping (flowMembers .flowMappingEnd (flowPair inFlow))

/-- A node with at most `depth` levels of collections in it; `paired` says that one of them is that
of a pair in a flow sequence around it. -/
def node (depth : Nat) (paired block bare : Bool) : Assemble Nat := do
  match depth with
  | 0 => throw .tooDeep
  | depth + 1 =>
    if paired then return ← node depth false block bare
    let token ← peek
    match token.kind with
    | .alias a =>
      let _ ← next
      match ← named? a with
      | some n => return n
      | none => malformedAt token.start
    | _ =>
      let h ← head block bare
      match h.anchor with
      | none => pure ()
      | some a => if (← named? a).isSome then malformedAt h.start
      finish h (node depth false true false) (node depth false true true)
        (node depth false false false) (node depth true false false)

/-- How deeply collections may be nested, up to a level or two that depend on what stands at the
bottom. -/
def deepest : Nat := 489

/-- Reads the directives before a document; `seen` are the handles they define, and `versioned`
says whether one of them gave the version. -/
def directives (fuel : Nat) (versioned : Bool) (seen : List (Text × Text)) :
    Assemble (List (Text × Text)) := do
  match fuel with
  | 0 => return seen
  | fuel + 1 =>
    let token ← peek
    match token.kind with
    | .directive d =>
      let _ ← next
      match d with
      | .version major =>
        if versioned || major != 1 then malformedAt token.start
        directives fuel true seen
      | .handle h expansion =>
        if (seen.lookup h).isSome then malformedAt token.start
        directives fuel versioned (seen ++ [(h, expansion)])
      | .other => directives fuel versioned seen
    | _ => return seen

/-- Starts a document with its directives and its indicator, and says where it starts; `none` at the
end of the stream. -/
def explicitStart : Assemble (Option Mark) := do
  let _ ← collect (do
    if (← peek).kind == .documentEnd then return some (← next) else return none) (← limit) []
  let token ← peek
  if token.kind == .streamEnd then return none
  let own ← directives (← limit) false []
  modify fun c =>
    { c with handles := own ++ commonHandles.filter fun (h, _) => (own.lookup h).isNone }
  let indicator ← peek
  if indicator.kind != .documentStart then malformedAt indicator.start
  let _ ← next
  return some token.start

def isDirective : TokenKind → Bool
  | .directive _ => true
  | _ => false

/-- The content of a document after its indicator. -/
def content : Assemble Nat := do
  let token ← peek
  if isDirective token.kind || [.documentStart, .documentEnd, .streamEnd].contains token.kind then
    absent token.start
  else node deepest false true false

/-- The one document of a stream, if it has any. -/
def document? : Assemble (Option Nat) := do
  let token ← peek
  let explicit := isDirective token.kind || token.kind == .documentStart ||
    token.kind == .streamEnd
  if ← onlyIf explicit (do return (← explicitStart).isNone) then return none
  let root ← if explicit then content else node deepest false true false
  if (← peek).kind == .documentEnd then
    let _ ← next
  match ← explicitStart with
  | none => return some root
  | some m => malformedAt m

end Assemble

/-- The graph of the one document in a stream, if there is one. -/
def Graph.ofStream (s : Stream) : Except Fault (Option Graph) := do
  let (root, c) ← Assemble.document?.run ⟨Tokens.start s, Assemble.commonHandles, #[], ∅⟩
  return root.map fun n => ⟨c.nodes, n⟩

end StyleGate.Yaml
