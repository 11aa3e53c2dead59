import StyleGate.Decimal.Reading
import StyleGate.Text.Utf8
import StyleGate.Yaml.Scan.Block
import StyleGate.Yaml.Scan.Quoted

/-!
Names: anchors and aliases, tags with their handles and identifiers, and directives.
-/

namespace StyleGate.Yaml

/-- A tag as written: a handle with a suffix, or an identifier by itself. -/
structure TagName where
  handle : Option Text
  suffix : Text
  deriving DecidableEq, Repr

/-- A line that starts with a percent sign. -/
inductive Directive where
  | version (major : Int)
  | handle (name expansion : Text)
  | other
  deriving DecidableEq, Repr

namespace Scan

/-- What may follow the name of an anchor or alias. -/
def endsAnchor (c : Char) : Bool :=
  isGap c || c == '?' || c == ':' || c == ',' || c == ']' || c == '}' || c == '%' || c == '@' ||
    c == '\x60'

/-- The name after the indicator of an anchor or alias. -/
def anchorName : Scan Text := do
  forward 1
  let name ← takeWhile isNameChar
  if name.isEmpty then malformed
  if !endsAnchor (← peek) then malformed
  return name

def isIdentifierChar (c : Char) : Bool :=
  c.isAlphanum || "-;/?:@&=+$,_.!~*'()[]%".toList.contains c

/-- Escaped bytes of an identifier. -/
def escapedBytes (fuel : Nat) (bytes : ByteArray) : Scan ByteArray := do
  match fuel with
  | 0 => return bytes
  | fuel + 1 =>
    if (← peek) == '%' then
      forward 1
      needHex 2 0
      let code := hexNumber (← front 2)
      forward 2
      escapedBytes fuel (bytes.push code.toUInt8)
    else return bytes

/-- The characters that escaped bytes stand for. -/
def escapedText : Scan Text := do
  let start ← mark
  let bytes ← escapedBytes (← get).limit ByteArray.empty
  match Utf8.decode bytes with
  | .ok s => return s
  | .error _ => fault (.malformed start)

def identifierFrom (fuel : Nat) (text : Text) (empty : Bool) : Scan Text := do
  match fuel with
  | 0 => return text
  | fuel + 1 =>
    let run ← takeWhile fun c => isIdentifierChar c && c != '%'
    let text := text ++ run
    if (← peek) == '%' then
      identifierFrom fuel (text ++ (← escapedText)) false
    else if empty && run.isEmpty then malformed
    else return text

/-- An identifier, which may hold escapes and is not empty. -/
def identifier : Scan Text := do identifierFrom (← get).limit [] true

/-- A handle: one exclamation mark, or two around a name. -/
def handle : Scan Text := do
  if (← peek) != '!' then malformed
  if (← peekAt 1) == ' ' then
    forward 1
    return ['!']
  let c ← get
  let name := (c.rest.drop 1).takeWhile isNameChar
  if (← peekAt (name.length + 1)) != '!' then
    forward (name.length + 1)
    malformed
  forward (name.length + 2)
  return '!' :: name ++ ['!']

/-- The characters up to the next gap hold a second exclamation mark. -/
def usesHandle : Scan Bool := do
  let c ← get
  let ahead := (c.rest.drop 1).takeWhile fun c => !endsWord c && c != '!'
  return (← peekAt (ahead.length + 1)) == '!'

def tagName : Scan TagName := do
  let c ← peekAt 1
  let name : TagName ←
    if c == '<' then do
      forward 2
      let suffix ← identifier
      if (← peek) != '>' then malformed
      forward 1
      pure ⟨none, suffix⟩
    else if isGap c then do
      forward 1
      pure ⟨none, ['!']⟩
    else if ← usesHandle then do
      let h ← handle
      pure ⟨some h, ← identifier⟩
    else do
      forward 1
      pure ⟨some ['!'], ← identifier⟩
  if !endsWord (← peek) then malformed
  return name

def directiveName : Scan Text := do
  let name ← takeWhile isNameChar
  if name.isEmpty then malformed
  if !endsWord (← peek) then malformed
  return name

def directiveNumber : Scan Int := do
  let digits ← takeWhile Char.isDigit
  if digits.isEmpty then malformed
  match Decimal.readInt? 10 digits with
  | some n => return n
  | none => fault .noValue

def versionDirective : Scan Directive := do
  skipSpaces
  let major ← directiveNumber
  if (← peek) != '.' then malformed
  forward 1
  let _ ← directiveNumber
  if !endsWord (← peek) then malformed
  return .version major

def handleDirective : Scan Directive := do
  skipSpaces
  let name ← handle
  if (← peek) != ' ' then malformed
  skipSpaces
  let expansion ← identifier
  if !endsWord (← peek) then malformed
  return .handle name expansion

/-- A directive and where it ends, from its percent sign on. -/
def directive : Scan (Directive × Mark) := do
  forward 1
  let name ← directiveName
  let d ←
    if name == "YAML".toList then versionDirective
    else if name == "TAG".toList then handleDirective
    else pure .other
  let stop ← mark
  if d == .other then
    let _ ← takeWhile (!isBreak ·)
  restOfLine
  return (d, stop)

end Scan

end StyleGate.Yaml
