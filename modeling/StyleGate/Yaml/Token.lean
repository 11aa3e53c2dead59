import StyleGate.Yaml.Scan.Name
import StyleGate.Yaml.Scan.Plain

/-!
Tokens, and the queue that makes them on demand. Indentation opens and closes block collections. A
scalar or a flow collection may turn out to be a key once a colon follows it on the same line, so
the place of every possible key is remembered, one for each level of flow collections, and the queue
holds tokens back until it is settled.
-/

namespace StyleGate.Yaml

inductive TokenKind where
  | streamEnd
  | directive (d : Directive)
  | documentStart
  | documentEnd
  | blockSequenceStart
  | blockMappingStart
  | blockEnd
  | flowSequenceStart
  | flowMappingStart
  | flowSequenceEnd
  | flowMappingEnd
  | blockEntry
  | flowEntry
  | key
  | value
  | alias (name : Text)
  | anchor (name : Text)
  | tag (name : TagName)
  | scalar (text : Text) (plain : Bool)
  deriving DecidableEq, Repr

structure Token where
  kind : TokenKind
  start : Mark
  stop : Mark
  deriving DecidableEq, Repr

/-- A place at which a key may have started. `token` is its number in the stream of tokens, and
`required` means that nothing but a key can stand there. -/
structure PossibleKey where
  token : Nat
  required : Bool
  index : Nat
  mark : Mark
  deriving DecidableEq, Repr

structure Tokens where
  cursor : Cursor
  finished : Bool
  /-- How many flow collections are open. -/
  flow : Nat
  queue : List Token
  /-- How many tokens have left the queue. -/
  taken : Nat
  /-- The column of the innermost block collection, -1 outside all of them. -/
  indent : Int
  outer : List Int
  /-- A key may start at the next token. -/
  keyAllowed : Bool
  /-- The possible keys, by level of flow collections. -/
  keys : List (Nat × PossibleKey)

abbrev Tokenize := StateT Tokens (Except Fault)

namespace Tokens

def start (s : Stream) : Tokens := ⟨Cursor.start s, false, 0, [], 0, -1, [], true, []⟩

/-- The furthest that the colon may be from the start of its key. -/
def longestKey : Nat := 1024

/-- The number of the first token that may still become a key. -/
def firstKey? (t : Tokens) : Option Nat := (t.keys.map fun (_, k) => k.token).min?

end Tokens

namespace Tokenize

/-- Runs a reader of characters. -/
def scan {α : Type} (m : Scan α) : Tokenize α := fun t => do
  let (a, c) ← m t.cursor
  return (a, { t with cursor := c })

def malformed {α : Type} : Tokenize α := scan Scan.malformed

def mark : Tokenize Mark := return (← get).cursor.mark

def push (kind : TokenKind) (start stop : Mark) : Tokenize Unit :=
  modify fun t => { t with queue := t.queue ++ [⟨kind, start, stop⟩] }

/-- A token that takes up no characters. -/
def pushHere (kind : TokenKind) : Tokenize Unit := do push kind (← mark) (← mark)

/-- A token of the next `n` characters. -/
def pushIndicator (kind : TokenKind) (n : Nat) : Tokenize Unit := do
  let start ← mark
  scan (Scan.forward n)
  push kind start (← mark)

def allowKey (allowed : Bool) : Tokenize Unit := modify fun t => { t with keyAllowed := allowed }

/-- The key can no longer be one: it is too far back or on another line. -/
def isStale (t : Tokens) (k : PossibleKey) : Bool :=
  k.mark.line != t.cursor.line || Tokens.longestKey < t.cursor.index - k.index

/-- Forgets keys that can no longer be keys; a required one must not be forgotten. -/
def dropStaleKeys : Tokenize Unit := do
  let t ← get
  if t.keys.any fun (_, k) => isStale t k && k.required then malformed
  set { t with keys := t.keys.filter fun (_, k) => !isStale t k }

/-- Forgets the possible key of the current level. -/
def dropKey : Tokenize Unit := do
  let t ← get
  if t.keys.any fun (level, k) => level == t.flow && k.required then malformed
  set { t with keys := t.keys.filter fun (level, _) => level != t.flow }

/-- Remembers that a key may start here. -/
def noteKey : Tokenize Unit := do
  if (← get).keyAllowed then
    dropKey
    modify fun t =>
      { t with keys := t.keys ++ [(t.flow,
        { token := t.taken + t.queue.length
          required := t.flow == 0 && t.indent == (t.cursor.column : Int)
          index := t.cursor.index
          mark := t.cursor.mark })] }

/-- Closes the block collections that are indented further than `column`. -/
def closeBlocks (column : Int) : Tokenize Unit := do
  let t ← get
  if t.flow == 0 then
    let closing : Token := ⟨.blockEnd, t.cursor.mark, t.cursor.mark⟩
    let levels := t.indent :: t.outer
    let closed := levels.takeWhile (column < ·)
    let left := levels.drop closed.length
    set { t with
      queue := t.queue ++ List.replicate closed.length closing
      indent := left.head?.getD (-1)
      outer := left.drop 1 }

/-- Opens a block collection at `column`, unless the current one is there already. -/
def openBlock (column : Nat) : Tokenize Bool := do
  let t ← get
  if t.indent < (column : Int) then
    set { t with indent := column, outer := t.indent :: t.outer }
    return true
  else return false

/-- Goes to the next token, past spaces, comments and line breaks. -/
def skipToToken (fuel : Nat) : Tokenize Unit := do
  match fuel with
  | 0 => return ()
  | fuel + 1 =>
    scan Scan.skipSpaces
    scan Scan.skipComment
    match ← scan Scan.lineBreak? with
    | none => return ()
    | some _ =>
      if (← get).flow == 0 then allowKey true
      skipToToken fuel

def streamEnd : Tokenize Unit := do
  closeBlocks (-1)
  dropKey
  allowKey false
  modify fun t => { t with keys := [] }
  pushHere .streamEnd
  modify fun t => { t with finished := true }

def directive : Tokenize Unit := do
  closeBlocks (-1)
  dropKey
  allowKey false
  let start ← mark
  let (d, stop) ← scan Scan.directive
  push (.directive d) start stop

def documentIndicator (kind : TokenKind) : Tokenize Unit := do
  closeBlocks (-1)
  dropKey
  allowKey false
  pushIndicator kind 3

def flowStart (kind : TokenKind) : Tokenize Unit := do
  noteKey
  modify fun t => { t with flow := t.flow + 1 }
  allowKey true
  pushIndicator kind 1

def flowEnd (kind : TokenKind) : Tokenize Unit := do
  dropKey
  modify fun t => { t with flow := t.flow - 1 }
  allowKey false
  pushIndicator kind 1

def flowEntry : Tokenize Unit := do
  allowKey true
  dropKey
  pushIndicator .flowEntry 1

/-- Opens a block collection here, where one must be allowed to start. -/
def startBlock (kind : TokenKind) : Tokenize Unit := do
  if (← get).flow == 0 then
    if !(← get).keyAllowed then malformed
    if ← openBlock (← get).cursor.column then pushHere kind

def blockEntry : Tokenize Unit := do
  startBlock .blockSequenceStart
  allowKey true
  dropKey
  pushIndicator .blockEntry 1

def explicitKey : Tokenize Unit := do
  startBlock .blockMappingStart
  allowKey ((← get).flow == 0)
  dropKey
  pushIndicator .key 1

/-- Puts tokens into the queue before the token with this number. -/
def insertBefore (number : Nat) (tokens : List Token) : Tokenize Unit :=
  modify fun t =>
    let place := number - t.taken
    { t with queue := t.queue.take place ++ tokens ++ t.queue.drop place }

/-- A colon settles that the possible key of this level is one. -/
def value : Tokenize Unit := do
  let t ← get
  match t.keys.find? fun (level, _) => level == t.flow with
  | some (_, k) =>
    set { t with keys := t.keys.filter fun (level, _) => level != t.flow }
    let opened ← if t.flow == 0 then openBlock k.mark.column else pure false
    insertBefore k.token
      ((if opened then [⟨.blockMappingStart, k.mark, k.mark⟩] else []) ++ [⟨.key, k.mark, k.mark⟩])
    allowKey false
  | none =>
    startBlock .blockMappingStart
    allowKey ((← get).flow == 0)
    dropKey
  pushIndicator .value 1

/-- A token that may start a key, read by `m`. -/
def keyLike {α : Type} (m : Scan α) (kind : α → TokenKind) : Tokenize Unit := do
  noteKey
  allowKey false
  let start ← mark
  let a ← scan m
  push (kind a) start (← mark)

def blockScalar (folded : Bool) : Tokenize Unit := do
  allowKey true
  dropKey
  let start ← mark
  let (text, stop) ← scan (Scan.block folded (← get).indent)
  push (.scalar text false) start stop

def plainScalar : Tokenize Unit := do
  noteKey
  allowKey false
  let start ← mark
  let p ← scan (Scan.plain ((← get).flow != 0) (← get).indent)
  allowKey p.broke
  push (.scalar p.text true) start p.stop

/-- The characters that start something other than a plain scalar. -/
def isIndicator (c : Char) : Bool :=
  "-?:,[]#&*!|>'\"%@".toList.contains c || c == '{' || c == '}' || c == '\x60'

/-- A plain scalar may start here. -/
def startsPlain (c : Char) : Tokenize Bool := do
  if !isGap c && !isIndicator c then return true
  let next ← scan (Scan.peekAt 1)
  return !isGap next && (c == '-' || (← get).flow == 0 && (c == '?' || c == ':'))

/-- The indicator stands for itself: a gap follows it. Inside flow collections it always does. -/
def standsAlone (inFlow : Bool) : Tokenize Bool := do
  if inFlow && (← get).flow != 0 then return true
  return isGap (← scan (Scan.peekAt 1))

/-- The character here starts the separator of documents that is made of it. -/
def atDocumentIndicator (c indicator : Char) : Tokenize Bool := do
  onlyIf (c == indicator && (← get).cursor.column == 0) (scan (Scan.atSeparator indicator))

/-- Makes the token that starts with `c`. -/
def fetchAt (c : Char) : Tokenize Unit := do
  let inBlock := (← get).flow == 0
  if c == nul then streamEnd
  else if c == '%' && (← get).cursor.column == 0 then directive
  else if ← atDocumentIndicator c '-' then documentIndicator .documentStart
  else if ← atDocumentIndicator c '.' then documentIndicator .documentEnd
  else if c == '[' then flowStart .flowSequenceStart
  else if c == '{' then flowStart .flowMappingStart
  else if c == ']' then flowEnd .flowSequenceEnd
  else if c == '}' then flowEnd .flowMappingEnd
  else if c == ',' then flowEntry
  else if ← onlyIf (c == '-') (standsAlone false) then blockEntry
  else if ← onlyIf (c == '?') (standsAlone true) then explicitKey
  else if ← onlyIf (c == ':') (standsAlone true) then value
  else if c == '*' then keyLike Scan.anchorName .alias
  else if c == '&' then keyLike Scan.anchorName .anchor
  else if c == '!' then keyLike Scan.tagName .tag
  else if c == '|' && inBlock then blockScalar false
  else if c == '>' && inBlock then blockScalar true
  else if c == '\'' || c == '"' then keyLike Scan.quoted (.scalar · false)
  else if ← startsPlain c then plainScalar
  else malformed

/-- Makes the next token. A byte order mark at the very start is skipped. -/
def fetch : Tokenize Unit := do
  let c ← scan Scan.peek
  if (← get).cursor.index == 0 && c == '\uFEFF' then scan (Scan.forward 1)
  skipToToken (← get).cursor.limit
  dropStaleKeys
  closeBlocks (← get).cursor.column
  fetchAt (← scan Scan.peek)

/-- Makes tokens until the first of them cannot become a key any more. -/
def fill (fuel : Nat) : Tokenize Unit := do
  match fuel with
  | 0 => return ()
  | fuel + 1 =>
    if (← get).finished then return ()
    if !(← get).queue.isEmpty then
      dropStaleKeys
      if (← get).firstKey? != some (← get).taken then return ()
    fetch
    fill fuel

/-- The next token, which stays in the queue. -/
def peek : Tokenize Token := do
  fill (← get).cursor.limit
  match (← get).queue with
  | t :: _ => return t
  | [] => return ⟨.streamEnd, ← mark, ← mark⟩

def next : Tokenize Token := do
  let token ← peek
  modify fun t => { t with queue := t.queue.drop 1, taken := t.taken + 1 }
  return token

end Tokenize

end StyleGate.Yaml
