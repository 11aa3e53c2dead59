import StyleGate.Yaml.Cursor

/-!
Block scalars: literal ones keep their line breaks, folded ones join lines. The indentation is that
of the first line with text unless the header states it, and the header may say whether the final
breaks are kept or stripped.
-/

namespace StyleGate.Yaml.Scan

/-- What becomes of the final line breaks. -/
inductive Chomping where
  | clip
  | strip
  | keep
  deriving DecidableEq, Repr

structure BlockHeader where
  chomping : Chomping
  increment : Option Nat

def chomping? : Scan (Option Chomping) := do
  let c ← peek
  if c == '+' || c == '-' then
    forward 1
    return some (if c == '+' then .keep else .strip)
  else return none

/-- A digit from one to nine. -/
def increment? : Scan (Option Nat) := do
  let c ← peek
  if c == '0' then malformed
  else if c.isDigit then
    forward 1
    return some (c.toNat - '0'.toNat)
  else return none

/-- The two indicators, in either order. -/
def blockHeader : Scan BlockHeader := do
  let first ← chomping?
  let increment ← increment?
  let chomping ← if first.isNone && increment.isSome then chomping? else pure first
  if !endsWord (← peek) then malformed
  return ⟨chomping.getD .clip, increment⟩

/-- The rest of a line that may hold nothing but a comment. -/
def restOfLine : Scan Unit := do
  skipSpaces
  skipComment
  if !endsLine (← peek) then malformed
  let _ ← lineBreak?

/-- Blank lines before the text: their breaks, last first, and the widest indentation among them. -/
def leadingBreaks (fuel : Nat) (breaks : Text) (widest : Nat) (stop : Mark) :
    Scan (Text × Nat × Mark) := do
  match fuel with
  | 0 => return (breaks, widest, stop)
  | fuel + 1 =>
    let spaces ← takeWhile (· == ' ')
    let column := (← get).column
    let widest := if spaces.isEmpty then widest else max widest column
    match ← lineBreak? with
    | some b => leadingBreaks fuel (b :: breaks) widest (← mark)
    | none => return (breaks, widest, stop)

/-- Skips at most the spaces that make up the indentation. -/
def skipIndent (indent : Nat) : Scan Unit := do
  let c ← get
  let run := (c.rest.take (indent - c.column)).takeWhile (· == ' ')
  moveOver run (c.rest.drop run.length)

/-- Blank lines inside the text: their breaks, last first. -/
def blockBreaks (indent fuel : Nat) (breaks : Text) (stop : Mark) : Scan (Text × Mark) := do
  match fuel with
  | 0 => return (breaks, stop)
  | fuel + 1 =>
    skipIndent indent
    match ← lineBreak? with
    | some b => blockBreaks indent fuel (b :: breaks) (← mark)
    | none => return (breaks, stop)

/-- What was read of a block scalar: its text, the break that ended the last line and the breaks of
the blank lines after it, all last first. -/
structure BlockText where
  text : Text
  lineBreak : Text
  breaks : Text
  stop : Mark

def atText (indent : Nat) : Scan Bool := do
  if (← get).column == indent then return (← peek) != nul else return false

/-- Reads the lines of the text, the first of which starts here. -/
def blockLines (folded : Bool) (indent fuel : Nat) (text breaks : Text) : Scan BlockText := do
  match fuel with
  | 0 => return ⟨text, [], breaks, ← mark⟩
  | fuel + 1 =>
    let c ← peek
    let flush := c != ' ' && c != '\t'
    let line ← takeWhile (!isBreak ·)
    let text := line.reverseAux (breaks ++ text)
    let lineBreak := (← lineBreak?).toList
    let (breaks, stop) ← blockBreaks indent (← get).limit [] (← mark)
    if ← atText indent then
      let c ← peek
      let joined := folded && lineBreak == ['\n'] && flush && c != ' ' && c != '\t'
      let between := if !joined then lineBreak else if breaks.isEmpty then [' '] else []
      blockLines folded indent fuel (between ++ text) breaks
    else return ⟨text, lineBreak, breaks, stop⟩

/-- A block scalar, from its indicator on, in a block of the given indentation. -/
def block (folded : Bool) (outer : Int) : Scan (Text × Mark) := do
  forward 1
  let header ← blockHeader
  restOfLine
  let least := (max (outer + 1) 1).toNat
  let limit := (← get).limit
  let (breaks, indent, stop) ← match header.increment with
    | none => do
      let (breaks, widest, stop) ← leadingBreaks limit [] 0 (← mark)
      pure (breaks, max least widest, stop)
    | some n => do
      let indent := least + n - 1
      let (breaks, stop) ← blockBreaks indent limit [] (← mark)
      pure (breaks, indent, stop)
  let read ← if ← atText indent then blockLines folded indent limit [] breaks
    else pure ⟨[], [], breaks, stop⟩
  let final := match header.chomping with
    | .strip => []
    | .clip => read.lineBreak
    | .keep => read.breaks ++ read.lineBreak
  return ((final ++ read.text).reverse, read.stop)

end StyleGate.Yaml.Scan
