import StyleGate.Yaml.Cursor

/-!
Quoted scalars. Between single quotes a doubled quote is a quote and nothing else is special;
between double quotes a backslash starts an escape. Line breaks are folded in both.
-/

namespace StyleGate.Yaml.Scan

/-- What a one-letter escape stands for. -/
def simpleEscape? (c : Char) : Option Char :=
  match c with
  | '0' => some '\x00'
  | 'a' => some '\x07'
  | 'b' => some '\x08'
  | 't' => some '\t'
  | '\t' => some '\t'
  | 'n' => some '\n'
  | 'v' => some '\x0b'
  | 'f' => some '\x0c'
  | 'r' => some '\r'
  | 'e' => some '\x1b'
  | ' ' => some ' '
  | '"' => some '"'
  | '\\' => some '\\'
  | '/' => some '/'
  | 'N' => some '\x85'
  | '_' => some '\xa0'
  | 'L' => some '\u2028'
  | 'P' => some '\u2029'
  | _ => none

/-- How many hexadecimal digits follow the letter of a numbered escape. -/
def escapeLength? (c : Char) : Option Nat :=
  match c with
  | 'x' => some 2
  | 'u' => some 4
  | 'U' => some 8
  | _ => none

def hexValue (c : Char) : Nat :=
  if c.isDigit then c.toNat - '0'.toNat else c.toLower.toNat - 'a'.toNat + 10

def hexNumber (s : Text) : Nat := s.foldl (fun n c => n * 16 + hexValue c) 0

/-- The characters ahead are hexadecimal digits, as many as stated; all must be there to be looked
at, up to the first that is not one. -/
def needHex (count : Nat) (seen : Nat) : Scan Unit := do
  match count with
  | 0 => return ()
  | count + 1 => if isHexDigit (← peekAt seen) then needHex count (seen + 1) else malformed

/-- The character with a number; there is none for half of a surrogate pair, which gives the
replacement character. -/
def charNumbered (n : Nat) : Scan Char :=
  if 0x7fffffff < n then fault .escapeTooLarge
  else if 0x10ffff < n then fault .noValue
  else if 0xd800 ≤ n && n < 0xe000 then return '\uFFFD'
  else return Char.ofNat n

/-- Further breaks inside a quoted scalar, last first, with the blanks around them skipped. -/
def quotedBreaks (fuel : Nat) (breaks : Text) : Scan Text := do
  match fuel with
  | 0 => return breaks
  | fuel + 1 =>
    if ← atAnySeparator then malformed
    let _ ← takeWhile fun c => c == ' ' || c == '\t'
    match ← lineBreak? with
    | some b => quotedBreaks fuel (b :: breaks)
    | none => return breaks

/-- An escape after its backslash, last character first. -/
def escape : Scan Text := do
  let c ← peek
  match simpleEscape? c, escapeLength? c with
  | some e, _ =>
    forward 1
    return [e]
  | none, some count =>
    forward 1
    needHex count 0
    let e ← charNumbered (hexNumber (← front count))
    forward count
    return [e]
  | none, none =>
    match ← lineBreak? with
    | some _ => quotedBreaks (← get).limit []
    | none => malformed

def isQuotedStop (c : Char) : Bool := c == '\'' || c == '"' || c == '\\' || isGap c

/-- Reads up to a blank or the closing quote; `text` is held last first. -/
def quotedWord (double : Bool) (fuel : Nat) (text : Text) : Scan Text := do
  match fuel with
  | 0 => return text
  | fuel + 1 =>
    let run ← takeWhile (!isQuotedStop ·)
    let text := run.reverseAux text
    let c ← peek
    let doubled ← onlyIf (!double && c == '\'') do return (← peekAt 1) == '\''
    if doubled then
      forward 2
      quotedWord double fuel ('\'' :: text)
    else if double && c == '\'' || !double && (c == '"' || c == '\\') then
      forward 1
      quotedWord double fuel (c :: text)
    else if double && c == '\\' then
      forward 1
      let e ← escape
      quotedWord double fuel (e ++ text)
    else return text

/-- Blanks and breaks inside a quoted scalar, last first. -/
def quotedGap : Scan Text := do
  let blanks ← takeWhile fun c => c == ' ' || c == '\t'
  if (← peek) == nul then malformed
  match ← lineBreak? with
  | none => return blanks.reverse
  | some b =>
    let breaks ← quotedBreaks (← get).limit []
    let first := if b != '\n' then [b] else if breaks.isEmpty then [' '] else []
    return breaks ++ first

def quotedFrom (quote : Char) (fuel : Nat) (text : Text) : Scan Text := do
  match fuel with
  | 0 => return text
  | fuel + 1 =>
    if (← peek) == quote then return text
    let gap ← quotedGap
    let text ← quotedWord (quote == '"') (← get).limit (gap ++ text)
    quotedFrom quote fuel text

/-- A scalar in quotes, from its opening quote on. -/
def quoted : Scan Text := do
  let quote ← peek
  forward 1
  let text ← quotedWord (quote == '"') (← get).limit []
  let text ← quotedFrom quote (← get).limit text
  forward 1
  return text.reverse

end StyleGate.Yaml.Scan
