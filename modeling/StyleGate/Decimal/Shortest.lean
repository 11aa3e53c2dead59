/-!
The fewest decimal digits that read back as a given floating-point number, chosen by exact
arithmetic. Every number stands for the reals that round to it; the digits are those of the coarsest
decimal grid with a point among these reals, and of two such points the nearer one.
-/

namespace StyleGate.Decimal

/-- A positive number `mantissa * 2 ^ exponent`. Below a power of two the next number is only half
as far away as above it. -/
structure Binary where
  mantissa : Nat
  exponent : Int
  closeBelow : Bool
  deriving DecidableEq, Repr

/-- The number with these bits, its sign dropped. Not-a-number and the infinities have none. -/
def Binary.ofBits (bits : UInt64) : Binary :=
  let e := ((bits >>> 52) &&& 0x7ff).toNat
  let f := (bits &&& 0xfffffffffffff).toNat
  if e == 0 then ⟨f, -1074, false⟩ else ⟨Nat.pow 2 52 + f, (e : Int) - 1075, f == 0 && 1 < e⟩

/-- `digits * 10 ^ exponent`. -/
structure Digits where
  digits : Nat
  exponent : Int
  deriving DecidableEq, Repr

/-- Compares `a * 10 ^ i` with `b * 2 ^ j`. -/
def compareScaled (a : Nat) (i : Int) (b : Nat) (j : Int) : Ordering :=
  compare (a * Nat.pow 10 i.toNat * Nat.pow 2 (-j).toNat)
    (b * Nat.pow 2 j.toNat * Nat.pow 10 (-i).toNat)

/-- The decimal lies among the reals that round to `x`; both ends belong to them if the mantissa is
even. -/
def Binary.readsBack (x : Binary) (d : Digits) : Bool :=
  let low := 4 * x.mantissa - (if x.closeBelow then 1 else 2)
  let high := 4 * x.mantissa + 2
  let ends := x.mantissa % 2 == 0
  let below := compareScaled d.digits d.exponent low (x.exponent - 2)
  let above := compareScaled d.digits d.exponent high (x.exponent - 2)
  (below == .gt || ends && below == .eq) && (above == .lt || ends && above == .eq)

/-- The least power of ten above `x`. -/
def Binary.scale (x : Binary) : Int :=
  let guess := ((x.mantissa.log2 : Int) + x.exponent) * 30103 / 100000
  match [guess - 1, guess, guess + 1].find? fun k =>
      compareScaled 1 k x.mantissa x.exponent == .gt with
  | some k => k
  | none => guess + 2

/-- The greatest multiple of `10 ^ e` that is not above `x`, as a multiple. -/
def Binary.floorOn (x : Binary) (e : Int) : Nat :=
  x.mantissa * Nat.pow 2 x.exponent.toNat * Nat.pow 10 (-e).toNat /
    (Nat.pow 10 e.toNat * Nat.pow 2 (-x.exponent).toNat)

/-- The point of the grid `10 ^ e` that reads back as `x`, the nearer one if there are two and the
even one if they are equally near. -/
def Binary.pointOn (x : Binary) (e : Int) : Option Digits :=
  let low : Digits := ⟨x.floorOn e, e⟩
  let high : Digits := ⟨low.digits + 1, e⟩
  match x.readsBack low, x.readsBack high with
  | true, false => some low
  | false, true => some high
  | false, false => none
  | true, true =>
    match compareScaled (2 * low.digits + 1) e (2 * x.mantissa) x.exponent with
    | .gt => some low
    | .lt => some high
    | .eq => some (if low.digits % 2 == 0 then low else high)

/-- The number itself, with all its digits. -/
def Binary.exact (x : Binary) : Digits :=
  if 0 ≤ x.exponent then ⟨x.mantissa * Nat.pow 2 x.exponent.toNat, 0⟩
  else ⟨x.mantissa * Nat.pow 5 (-x.exponent).toNat, x.exponent⟩

/-- Seventeen digits tell any two numbers apart. -/
def mostDigits : Nat := 17

def Binary.shortest (x : Binary) : Digits :=
  match (List.range mostDigits).findSome? fun n : Nat =>
      x.pointOn (x.scale - (n + 1 : Nat)) with
  | some d => d
  | none => x.exact

end StyleGate.Decimal
