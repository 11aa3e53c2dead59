import StyleGate.Yaml.Stream

/-!
Reading a stream character by character with line and column. At the end of a clean stream the
reader sees the NUL character, which no stream holds.
-/

namespace StyleGate.Yaml

/-- A place in a stream, counted from zero. -/
structure Mark where
  line : Nat
  column : Nat
  deriving DecidableEq, Repr

/-- Why a stream has no value. -/
inductive Fault where
  /-- The stream breaks a rule of YAML at this place. -/
  | malformed (mark : Mark)
  /-- The stream holds a character that YAML does not allow. -/
  | unprintable
  /-- The stream is not UTF-8. -/
  | undecodable
  /-- A scalar with the look of its kind has no value of it. -/
  | noValue
  /-- An escape asks for a character far beyond the last. -/
  | escapeTooLarge
  /-- A scalar marked as a number is empty. -/
  | emptyNumber
  /-- A scalar marked as a truth value names none. -/
  | unknownTruth
  /-- A scalar marked as a point in time does not look like one. -/
  | notTimestamp
  /-- A collection is marked as a point in time. -/
  | notText
  /-- A number in base sixty has more places than any floating-point number. -/
  | tooManyPlaces
  /-- Collections are nested too deeply, or a default value leads back to itself. -/
  | tooDeep
  deriving DecidableEq, Repr

/-- A reader's place. `limit` is above the number of characters of the stream, so no loop over them
takes more turns. -/
structure Cursor where
  rest : Text
  ending : Ending
  index : Nat
  line : Nat
  column : Nat
  limit : Nat

abbrev Scan := StateT Cursor (Except Fault)

/-- Makes a test only if `first` holds, which it then decides. -/
def onlyIf {m : Type → Type} [Monad m] (first : Bool) (test : m Bool) : m Bool :=
  if first then test else pure false

namespace Cursor

def start (s : Stream) : Cursor := ⟨s.chars, s.ending, 0, 0, 0, s.chars.length + 2⟩

def mark (c : Cursor) : Mark := ⟨c.line, c.column⟩

def endFault? (c : Cursor) : Option Fault :=
  match c.ending with
  | .clean => none
  | .undecodable => some .undecodable
  | .unprintable => some .unprintable

end Cursor

/-- The NUL character. -/
def nul : Char := '\x00'

def isBreak (c : Char) : Bool :=
  c == '\n' || c == '\r' || c == '\x85' || c == '\u2028' || c == '\u2029'

def endsLine (c : Char) : Bool := c == nul || isBreak c

/-- A line end or a space. -/
def endsWord (c : Char) : Bool := c == ' ' || endsLine c

/-- A line end, a space or a tab. -/
def isGap (c : Char) : Bool := c == '\t' || endsWord c

/-- A character of the names of anchors, handles and directives. -/
def isNameChar (c : Char) : Bool := c.isAlphanum || c == '-' || c == '_'

def isHexDigit (c : Char) : Bool :=
  c.isDigit || ('a' ≤ c && c ≤ 'f') || ('A' ≤ c && c ≤ 'F')

namespace Scan

def fault {α : Type} (f : Fault) : Scan α := throw f

/-- A rule of YAML is broken here. -/
def malformed {α : Type} : Scan α := do fault (.malformed (← get).mark)

def mark : Scan Mark := return (← get).mark

/-- Insists that the stream goes on or ends cleanly after `n` more characters. -/
def need (n : Nat) : Scan Unit := do
  let c ← get
  if (c.rest.drop n).isEmpty then
    match c.endFault? with
    | some f => fault f
    | none => pure ()

/-- The character `n` places ahead. -/
def peekAt (n : Nat) : Scan Char := do
  need n
  return ((← get).rest[n]?).getD nul

def peek : Scan Char := peekAt 0

/-- The next characters, at most `n`. -/
def front (n : Nat) : Scan Text := do
  need (n - 1)
  return (← get).rest.take n

/-- Line and column after one character; the byte order mark takes up no column. -/
def advance (place : Nat × Nat) (c : Char) : Nat × Nat :=
  if isBreak c then (place.1 + 1, 0)
  else if c == '\uFEFF' then place
  else (place.1, place.2 + 1)

/-- Moves past `run`, which leaves `rest`. -/
def moveOver (run rest : Text) : Scan Unit := do
  modify fun c =>
    let (line, column) := run.foldl advance (c.line, c.column)
    { c with rest := rest, index := c.index + run.length, line := line, column := column }
  need 0

def forward (n : Nat) : Scan Unit := do
  let c ← get
  moveOver (c.rest.take n) (c.rest.drop n)

/-- Reads the longest run of characters of a class. -/
def takeWhile (p : Char → Bool) : Scan Text := do
  let c ← get
  let run := c.rest.takeWhile p
  moveOver run (c.rest.dropWhile p)
  return run

def skipSpaces : Scan Unit := do
  let _ ← takeWhile (· == ' ')

/-- Skips a comment, if one starts here. -/
def skipComment : Scan Unit := do
  if (← peek) == '#' then
    let _ ← takeWhile (!isBreak ·)

/-- Reads a line break, if there is one; all but the two Unicode separators count as a line feed. -/
def lineBreak? : Scan (Option Char) := do
  let c ← peek
  if c == '\u2028' || c == '\u2029' then
    forward 1
    return some c
  else if isBreak c then
    forward 1
    return some '\n'
  else return none

/-- Three hyphens or three dots with a gap after them. -/
def atSeparator (indicator : Char) : Scan Bool := do
  if (← front 3) == List.replicate 3 indicator then return isGap (← peekAt 3) else return false

/-- A separator of documents of either kind. -/
def atAnySeparator : Scan Bool := do
  if ← atSeparator '-' then return true else atSeparator '.'

end Scan

end StyleGate.Yaml
