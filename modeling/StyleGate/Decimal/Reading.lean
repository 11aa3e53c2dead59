import StyleGate.Decimal.Format
import StyleGate.Text.Blank
import StyleGate.Text.Digit

/-!
Reading numbers: whole numbers in a base and decimal numbers, in the digits of any script, with a
sign, and with blanks around them.
-/

namespace StyleGate.Decimal

open Text

/-- A blank that may stand around a number: the information separators may not. -/
def isMargin (c : Char) : Bool := isBlank c && !(0x1c ≤ c.toNat && c.toNat ≤ 0x1f)

def trimMargins (s : Text) : Text := ((s.dropWhile isMargin).reverse.dropWhile isMargin).reverse

/-- A leading sign, true for minus, and the text after it. -/
def splitSign : Text → Bool × Text
  | '-' :: s => (true, s)
  | '+' :: s => (false, s)
  | s => (false, s)

/-- The value of a digit; letters go on after nine. -/
def baseDigit? (c : Char) : Option Nat :=
  match digitValue? c with
  | some n => some n
  | none =>
    if c.isLower then some (c.toNat - 'a'.toNat + 10)
    else if c.isUpper then some (c.toNat - 'A'.toNat + 10)
    else none

/-- The number that digits of a base spell after `value`. -/
def digitsFrom (base : Nat) (value : Nat) : Text → Option Nat
  | [] => some value
  | c :: s =>
    match baseDigit? c with
    | some n => if n < base then digitsFrom base (value * base + n) s else none
    | none => none

/-- The letter that announces a base after a zero. -/
def baseMark : Nat → Option Char
  | 2 => some 'b'
  | 8 => some 'o'
  | 16 => some 'x'
  | _ => none

/-- The text after an announcement of this base, or all of it. -/
def dropBaseMark (base : Nat) : Text → Text
  | '0' :: c :: s => if baseMark base == some c.toLower then s else '0' :: c :: s
  | s => s

/-- The most digits that are read in base ten. -/
def mostDecimalDigits : Nat := 4300

def readInt? (base : Nat) (s : Text) : Option Int :=
  let (negative, s) := splitSign (trimMargins s)
  let digits := dropBaseMark base s
  if digits.isEmpty || base == 10 && mostDecimalDigits < digits.length then none
  else (digitsFrom base 0 digits).map fun n => if negative then -n else n

def digitsValue (s : Text) : Nat := s.foldl (fun n c => n * 10 + (digitValue? c).getD 0) 0

/-- The exponent that ends a decimal number, zero if there is none. -/
def readExponent? : Text → Option Int
  | [] => some 0
  | c :: s =>
    if c == 'e' || c == 'E' then
      let (negative, digits) := splitSign s
      if digits.isEmpty || !digits.all isDigit then none
      else some (if negative then -(digitsValue digits : Int) else digitsValue digits)
    else none

/-- A decimal number without sign. -/
def readUnsigned? (s : Text) : Option Float :=
  let whole := s.takeWhile isDigit
  let rest := s.dropWhile isDigit
  let (fraction, rest) := match rest with
    | '.' :: r => (r.takeWhile isDigit, r.dropWhile isDigit)
    | r => ([], r)
  if whole.isEmpty && fraction.isEmpty then none
  else (readExponent? rest).map fun e =>
    nearest (digitsValue (whole ++ fraction)) (e - fraction.length)

def infinity : Float := 1.0 / 0.0

def notANumber : Float := 0.0 / 0.0

/-- A decimal number, an infinity or not-a-number. -/
def readFloat? (s : Text) : Option Float :=
  let (negative, s) := splitSign (trimMargins s)
  let name := s.map Char.toLower
  let size :=
    if name == "inf".toList || name == "infinity".toList then some infinity
    else if name == "nan".toList then some notANumber
    else readUnsigned? s
  size.map fun x => if negative then -x else x

end StyleGate.Decimal
