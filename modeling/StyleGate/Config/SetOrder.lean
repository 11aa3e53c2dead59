import StyleGate.Config.Scalar

/-!
The order in which a set shows its members. A set keeps them in a table whose size is a power of two.
A member goes to the place that its hash names, or to one of the next nine if that is taken and they
fit into the table, and else to further places that depend on the hash. The set shows its members in
the order of their places. Only numbers have a hash that is the same in every run, so a set with
other members shows them in the order in which they came.
-/

namespace StyleGate.Config

/-- Hashes of numbers are remainders by this prime. -/
def hashPrime : Nat := Nat.pow 2 61 - 1

/-- A hash is never -1. -/
def signedHash (negative : Bool) (n : Nat) : Int :=
  if negative then (if n == 1 then -2 else -(n : Int)) else n

/-- The hash of a number: two to the power of 61 leaves one, so exponents count by their remainders. -/
def floatHash (x : Float) : Int :=
  let negative := x < 0.0
  if x.isInf then (if negative then -314159 else 314159)
  else
    let b := Decimal.Binary.ofBits x.toBits
    signedHash negative (b.mantissa * Nat.pow 2 (b.exponent.emod 61).toNat % hashPrime)

def Scalar.numberHash? : Scalar → Option Int
  | .bool b => some (if b then 1 else 0)
  | .int n => some (signedHash (n < 0) (n.natAbs % hashPrime))
  | .float x => some (floatHash x)
  | _ => none

/-- The size of the table for this many members: eight, or more than twice as many. -/
def tableSize (count : Nat) : Nat :=
  if count < 5 then 8 else Nat.pow 2 ((2 * count).log2 + 1)

/-- The places that are tried together, from `place` on. -/
def neighbours (size place : Nat) : List Nat :=
  if place + 9 < size then (List.range 10).map (place + ·) else [place]

/-- Puts a member at the first free place. -/
def settle {α : Type} (table : Array (Option α)) (a : α) (fuel place stir : Nat) :
    Array (Option α) :=
  match fuel with
  | 0 => table
  | fuel + 1 =>
    match (neighbours table.size place).find? fun i => (table[i]?.join).isNone with
    | some i => table.setIfInBounds i (some a)
    | none =>
      let stir := stir / 32
      settle table a fuel ((place * 5 + 1 + stir) % table.size) stir

/-- The members of a set in the order in which it shows them. -/
def setOrder (members : List Scalar) : List Scalar :=
  match members.mapM fun s => s.numberHash?.map fun h => (s, h) with
  | none => members
  | some hashed =>
    let size := tableSize members.length
    let table := hashed.foldl (fun table (s, h) =>
      settle table s (size + 16) (h.emod size).toNat (h.emod (Nat.pow 2 64)).toNat)
      (Array.replicate size none)
    table.toList.filterMap id

end StyleGate.Config
