import StyleGate.Yaml.Cursor

/-!
Plain scalars: words without quotes. A word ends at a gap, at a colon that a gap follows, and inside
flow collections at their punctuation. Spaces and line breaks between words are folded: one break is
a space, and of several breaks all but the first stay.
-/

namespace StyleGate.Yaml.Scan

/-- A colon before this character ends a plain word. -/
def endsKey (flow : Bool) (c : Char) : Bool :=
  isGap c || flow && (c == ',' || c == '[' || c == ']' || c == '{' || c == '}')

def isFlowStop (c : Char) : Bool :=
  c == ',' || c == '?' || c == '[' || c == ']' || c == '{' || c == '}'

/-- The word at the front, last character first, after what was read of it, and the rest. -/
def plainWordFrom (flow : Bool) (word : Text) : Text → Text × Text
  | [] => (word, [])
  | c :: s =>
    if isGap c || flow && isFlowStop c || c == ':' && endsKey flow (s.head?.getD nul) then
      (word, c :: s)
    else plainWordFrom flow (c :: word) s

def plainWord (flow : Bool) : Scan Text := do
  let c ← get
  let (word, rest) := plainWordFrom flow [] c.rest
  let word := word.reverse
  -- A colon at the end of what is there can only be judged by what follows.
  if rest == [':'] then need (word.length + 1)
  moveOver word rest
  return word

/-- What spaces and breaks between two words leave behind, and whether a break was among them. -/
structure Gap where
  text : Text
  broke : Bool

/-- Skips spaces and collects further breaks, last first; `none` at a document separator. -/
def plainBreaks (fuel : Nat) (breaks : Text) : Scan (Option Text) := do
  match fuel with
  | 0 => return some breaks
  | fuel + 1 =>
    skipSpaces
    match ← lineBreak? with
    | none => return some breaks
    | some b => if ← atAnySeparator then return none else plainBreaks fuel (b :: breaks)

/-- The gap after a word. Without text the scalar ends here. -/
def plainGap : Scan Gap := do
  let spaces ← takeWhile (· == ' ')
  match ← lineBreak? with
  | none => return ⟨spaces, false⟩
  | some b =>
    if ← atAnySeparator then return ⟨[], true⟩
    match ← plainBreaks (← get).limit [] with
    | none => return ⟨[], true⟩
    | some breaks =>
      let first := if b != '\n' then [b] else if breaks.isEmpty then [' '] else []
      return ⟨first ++ breaks.reverse, true⟩

/-- A plain scalar, where it ends, and whether a line break was read last. -/
structure Plain where
  text : Text
  stop : Mark
  broke : Bool

/-- Reads words and gaps; `text` is held last first, `gap` is what precedes the next word. -/
def plainFrom (flow : Bool) (indent : Int) (fuel : Nat) (text gap : Text) (stop : Mark)
    (broke : Bool) : Scan Plain := do
  match fuel with
  | 0 => return ⟨text.reverse, stop, broke⟩
  | fuel + 1 =>
    if (← peek) == '#' then return ⟨text.reverse, stop, broke⟩
    let word ← plainWord flow
    if word.isEmpty then return ⟨text.reverse, stop, broke⟩
    let text := word.reverseAux (gap.reverseAux text)
    let stop ← mark
    let next ← plainGap
    let outdented := !flow && (((← get).column : Int) < indent)
    if next.text.isEmpty || (← peek) == '#' || outdented then
      return ⟨text.reverse, stop, next.broke⟩
    plainFrom flow indent fuel text next.text stop next.broke

/-- A plain scalar in a block of the given indentation. -/
def plain (flow : Bool) (indent : Int) : Scan Plain := do
  plainFrom flow (indent + 1) (← get).limit [] [] (← mark) false

end StyleGate.Yaml.Scan
