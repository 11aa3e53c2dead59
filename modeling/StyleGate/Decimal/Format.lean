import StyleGate.Decimal.Shortest

/-!
Floating-point numbers as text, and the number that a decimal text stands for.
-/

namespace StyleGate.Decimal

/-- How numbers are laid out: those whose leading digit has an exponent from `plainFrom` on and
below `plainBelow` positionally, the others with an exponent of at least `exponentWidth` digits and
a sign. -/
structure Layout where
  plainFrom : Int
  plainBelow : Int
  exponentWidth : Nat

/-- The digits of a decimal without trailing zeros, and the exponent of the first. -/
def significant (d : Digits) : List Char × Int :=
  let all := Nat.toDigits 10 d.digits
  let kept := (all.reverse.dropWhile (· == '0')).reverse
  (kept, d.exponent + all.length - 1)

def padStart (width : Nat) (s : List Char) : List Char :=
  List.replicate (width - s.length) '0' ++ s

/-- Positional digits, with at least one on either side of the point. -/
def positional (digits : List Char) (lead : Int) : List Char :=
  if lead < 0 then '0' :: '.' :: List.replicate (-lead - 1).toNat '0' ++ digits
  else
    let whole := lead.toNat + 1
    let front := digits.take whole
    let back := digits.drop whole
    front ++ List.replicate (whole - front.length) '0' ++ '.' ::
      (if back.isEmpty then ['0'] else back)

/-- One digit, the others after a point, and a signed exponent. -/
def scientific (width : Nat) (digits : List Char) (lead : Int) : List Char :=
  digits.take 1 ++ (if digits.length ≤ 1 then [] else '.' :: digits.drop 1) ++
    ['e', if lead < 0 then '-' else '+'] ++ padStart width (Nat.toDigits 10 lead.natAbs)

def Layout.write (l : Layout) (d : Digits) : List Char :=
  let (digits, lead) := significant d
  if l.plainFrom ≤ lead && lead < l.plainBelow then positional digits lead
  else scientific l.exponentWidth digits lead

/-- The text of a number; zero keeps its sign. -/
def Layout.render (l : Layout) (x : Float) : String :=
  if x.isNaN then "nan"
  else
    let sign := if x.toBits >>> 63 == 1 then "-" else ""
    if x.isInf then sign ++ "inf"
    else if x == 0.0 then sign ++ "0.0"
    else sign ++ String.ofList (l.write (Binary.ofBits x.toBits).shortest)

/-- The integer that a number equals, if it is one. -/
def integer? (x : Float) : Option Int :=
  if x.isNaN || x.isInf then none
  else
    let b := Binary.ofBits x.toBits
    let sign : Int := if x.toBits >>> 63 == 1 then -1 else 1
    if 0 ≤ b.exponent then some (sign * (b.mantissa * Nat.pow 2 b.exponent.toNat : Nat))
    else
      let unit := Nat.pow 2 (-b.exponent).toNat
      if b.mantissa % unit == 0 then some (sign * (b.mantissa / unit : Nat)) else none

/-- The quotient rounded to the nearest whole number, a half to the even neighbour. -/
def roundedQuotient (num den : Nat) : Nat :=
  let q := num / den
  let twice := 2 * (num % den)
  if den < twice || twice == den && q % 2 == 1 then q + 1 else q

/-- The number `mantissa * 2 ^ exponent` for a mantissa of at most 53 bits, or infinity. A mantissa
of 53 bits or the least exponent is needed to write it; a mantissa of `2 ^ 53` counts one up in the
exponent by itself. -/
def ofMantissa (mantissa : Nat) (exponent : Int) : Float :=
  if mantissa < Nat.pow 2 52 then Float.ofBits mantissa.toUInt64
  else
    let bits := (exponent + 1075).toNat * Nat.pow 2 52 + (mantissa - Nat.pow 2 52)
    Float.ofBits (min bits (2047 * Nat.pow 2 52)).toUInt64

/-- The number nearest to a positive quotient, of two the one with the even mantissa. -/
def nearestQuotient (num den : Nat) : Float :=
  let guess : Int := (num.log2 : Int) - den.log2 - 52
  let onGrid (e : Int) : Nat × Nat := (num * Nat.pow 2 (-e).toNat, den * Nat.pow 2 e.toNat)
  let (n, d) := onGrid guess
  let e := max (if n / d < Nat.pow 2 52 then guess - 1 else guess) (-1074)
  let (n, d) := onGrid e
  ofMantissa (roundedQuotient n d) e

/-- The number nearest to `digits * 10 ^ exponent`. Far outside the range of the numbers the power
is not computed. -/
def nearest (digits : Nat) (exponent : Int) : Float :=
  let size := (digits.log2 : Int) * 30103 / 100000 + exponent
  if digits == 0 || size < -330 then 0.0
  else if 310 < size then 1.0 / 0.0
  else nearestQuotient (digits * Nat.pow 10 exponent.toNat) (Nat.pow 10 (-exponent).toNat)

end StyleGate.Decimal
