import StyleGate.Config.Scalar
import StyleGate.Yaml.Base64
import StyleGate.Yaml.Cursor
import StyleGate.Yaml.Tag

/-!
The values of scalars, by the kind that their tag gives them.
-/

namespace StyleGate.Yaml

open Config

/-- Removes the marks that only group digits. -/
def ungrouped (s : Text) : Text := s.filter (· != '_')

/-- The pieces of a text between colons. -/
def colonPieces (piece : Text) (done : List Text) : Text → List Text
  | [] => (piece.reverse :: done).reverse
  | c :: s =>
    if c == ':' then colonPieces [] (piece.reverse :: done) s else colonPieces (c :: piece) done s

def signed (negative : Bool) (n : Int) : Int := if negative then -n else n

/-- A whole number after its sign. -/
def wholeValue (s : Text) : Except Fault Int :=
  let read (base : Nat) (digits : Text) : Except Fault Int :=
    match Decimal.readInt? base digits with
    | some n => .ok n
    | none => .error .noValue
  match s with
  | [] => .error .emptyNumber
  | ['0'] => .ok 0
  | '0' :: 'b' :: digits => read 2 digits
  | '0' :: 'x' :: digits => read 16 digits
  | '0' :: digits => read 8 ('0' :: digits)
  | s =>
    if s.contains ':' then do
      let parts ← (colonPieces [] [] s).mapM (read 10)
      return parts.foldl (fun n part => n * 60 + part) 0
    else read 10 s

def intValue (text : Text) : Except Fault Scalar :=
  let s := ungrouped text
  if s.isEmpty then .error .emptyNumber
  else
    let (negative, s) := Decimal.splitSign s
    (wholeValue s).map fun n => .int (signed negative n)

/-- Parts in base sixty, from the ones up, each times its place. A place is a whole number, which has
to become a floating-point number for that. -/
def sixtiesFrom (sum : Float) (place : Nat) : List Float → Except Fault Float
  | [] => .ok sum
  | part :: parts =>
    let unit := Decimal.nearest place 0
    if unit.isInf then .error .tooManyPlaces
    else sixtiesFrom (sum + part * unit) (place * 60) parts

/-- A number with a point after its sign. -/
def pointValue (s : Text) : Except Fault Float :=
  let read (s : Text) : Except Fault Float :=
    match Decimal.readFloat? s with
    | some x => .ok x
    | none => .error .noValue
  if s == ".inf".toList then .ok Decimal.infinity
  else if s.contains ':' then do sixtiesFrom 0.0 1 (← (colonPieces [] [] s).mapM read).reverse
  else read s

/-- Where the word for not-a-number stands for a number, it is always the same one; elsewhere every
node makes its own. -/
def floatValue (source : Nat) (text : Text) : Except Fault Scalar :=
  let s := (ungrouped text).map Char.toLower
  if s.isEmpty then .error .emptyNumber
  else
    let (negative, s) := Decimal.splitSign s
    if s == ".nan".toList then .ok (.nan 0)
    else (pointValue s).map fun x =>
      .ofFloat (source + 1) (if negative then -1.0 * x else x)

def boolValue (text : Text) : Except Fault Scalar :=
  let s := text.map Char.toLower
  if ["yes", "true", "on"].any (·.toList == s) then .ok (.bool true)
  else if ["no", "false", "off"].any (·.toList == s) then .ok (.bool false)
  else .error .unknownTruth

/-- A point in time has to be written out; a default value does not serve for it. -/
def timestampValue (text : Text) (written : Bool) : Except Fault Scalar :=
  if !written then .error .notText
  else
    let s := if text.getLast? == some '\n' then text.dropLast else text
    match Timestamp.parse? s with
    | none => .error .notTimestamp
    | some t =>
      match t.scalar? with
      | some v => .ok v
      | none => .error .noValue

def binaryValue (text : Text) (m : Mark) : Except Fault Scalar :=
  if text.any fun c => 0x80 ≤ c.toNat then .error (.malformed m)
  else match Base64.decode? text with
    | some bytes => .ok (.bytes bytes)
    | none => .error (.malformed m)

/-- The value of a scalar of this kind. `source` is the number of its node, and `written` says whether
the text is its own. -/
def scalarValue (tag : Tag) (text : Text) (m : Mark) (source : Nat) (written : Bool) :
    Except Fault Scalar :=
  match tag with
  | .null => .ok .null
  | .bool => boolValue text
  | .int => intValue text
  | .float => floatValue source text
  | .timestamp => timestampValue text written
  | .binary => binaryValue text m
  | .str => .ok (.text (String.ofList text))
  | _ => .error (.malformed m)

end StyleGate.Yaml
