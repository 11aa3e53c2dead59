import StyleGate.Config.SetOrder
import StyleGate.Config.Value
import StyleGate.Text.Quoted

/-!
How messages spell a configuration value. A collection that stands inside itself is cut short there.
Whole numbers beyond a certain length are not spelled at all, and no value that holds one is. Nor is
a value whose members stand inside one another more deeply than the given number of levels.
-/

namespace StyleGate.Config

/-- Numbers from a ten-thousandth up to ten to the sixteenth are written positionally; an exponent
has at least two digits. -/
def numberLayout : Decimal.Layout where
  plainFrom := -4
  plainBelow := 16
  exponentWidth := 2

/-- Why a value cannot be spelled. -/
inductive SpellingError where
  | tooManyDigits
  | tooDeep
  deriving DecidableEq, Repr

def quote (s : String) : String := String.ofList (Text.quoted s.toList)

def commaList (items : List String) : String := ", ".intercalate items

/-- The most digits that a whole number is spelled with. -/
def mostDigits : Nat := 4300

def spellInt (n : Int) : Except SpellingError String :=
  let digits := toString n.natAbs
  if mostDigits < digits.length then .error .tooManyDigits
  else .ok (if n < 0 then "-" ++ digits else digits)

/-- The offset from universal time as whole days and the seconds left over. -/
def spellOffset (minutes : Int) : String :=
  if minutes == 0 then "datetime.timezone.utc"
  else
    let days := minutes.fdiv 1440
    let seconds := minutes.fmod 1440 * 60
    let parts := (if days == 0 then [] else ["days=" ++ toString days]) ++
      (if seconds == 0 then [] else ["seconds=" ++ toString seconds])
    "datetime.timezone(datetime.timedelta(" ++ commaList parts ++ "))"

/-- Seconds and microseconds are left out from the end while they are zero. -/
def spellMoment (m : Moment) : String :=
  let fields := [m.date.year, m.date.month, m.date.day, m.hour, m.minute] ++
    (if m.microsecond != 0 then [m.second, m.microsecond]
      else if m.second != 0 then [m.second] else [])
  let zone := match m.offset with
    | none => []
    | some minutes => ["tzinfo=" ++ spellOffset minutes]
  "datetime.datetime(" ++ commaList (fields.map toString ++ zone) ++ ")"

def Scalar.spelling : Scalar → Except SpellingError String
  | .null => .ok "None"
  | .bool b => .ok (if b then "True" else "False")
  | .int n => spellInt n
  | .float x => .ok (numberLayout.render x)
  | .nan _ => .ok "nan"
  | .text s => .ok (quote s)
  | .bytes bs => .ok ("b" ++ String.ofList (Text.quotedBytes bs))
  | .date d => .ok ("datetime.date(" ++ commaList ([d.year, d.month, d.day].map toString) ++ ")")
  | .moment m => .ok (spellMoment m)

/-- How many levels the spelling of a scalar takes: its own and, for a moment, that of its zone and
that of the offset in it. -/
def Scalar.levels : Scalar → Nat
  | .moment m =>
    match m.offset with
    | none => 1
    | some minutes => if minutes == 0 then 2 else 3
  | _ => 1

/-- The spelling of a scalar at which so many levels are left. -/
def Scalar.spellingWithin (depth : Nat) (s : Scalar) : Except SpellingError String :=
  if depth < s.levels then .error .tooDeep else s.spelling

/-- The marks around the members of a collection. -/
def Layer.enclose {α : Type} (inside : String) : Layer α → String
  | .scalar _ => inside
  | .list _ => "[" ++ inside ++ "]"
  | .map _ => "\x7b" ++ inside ++ "\x7d"
  | .set [] => "set(" ++ inside ++ ")"
  | .set _ => "\x7b" ++ inside ++ "\x7d"
  | .pair _ _ => "(" ++ inside ++ ")"

/-- How the members of a layer are spelled, given how a member by itself is, where `depth` levels
are left for them. The members of a set stand one level further down, in a list of their own. -/
def Layer.spellMembers {α : Type} (depth : Nat) (spell : α → Except SpellingError String) :
    Layer α → Except SpellingError (List String)
  | .scalar s => do return [← s.spellingWithin (depth + 1)]
  | .list items => items.mapM spell
  | .map entries => entries.mapM fun (k, v) => do
    return (← k.spellingWithin depth) ++ ": " ++ (← spell v)
  | .set members => (setOrder members).mapM (Scalar.spellingWithin (depth - 1))
  | .pair a b => do return [← spell a, ← spell b]

/-- Spells the value of a cell that stands inside the cells `around`, where `depth` levels are
left. -/
def spellCell (cells : Cells) (depth : Nat) (around : List Nat) (cell : Nat) :
    Except SpellingError String :=
  match depth with
  | 0 => .error .tooDeep
  | depth + 1 =>
    let layer := (cells[cell]?).getD (.scalar .null)
    if around.contains cell then .ok (layer.enclose "...")
    else (layer.spellMembers depth (spellCell cells depth (cell :: around))).map fun texts =>
      layer.enclose (commaList texts)

/-- The levels that are left in a process that has done nothing else before. -/
def freshDepth : Nat := 996

def Value.spelling (depth : Nat) (v : Value) : Except SpellingError String :=
  spellCell v.cells depth [] v.cell

end StyleGate.Config
