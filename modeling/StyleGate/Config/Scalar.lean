import StyleGate.Decimal.Format

/-!
Scalars: values without members. Two scalars are the same key of a mapping if they are equal as
numbers, truth values counting as zero and one, if they are the same point in time, or if they are
equal as values of any other kind.
-/

namespace StyleGate.Config

structure Date where
  year : Nat
  month : Nat
  day : Nat
  deriving DecidableEq, Repr

namespace Date

def isLeap (year : Nat) : Bool := year % 4 == 0 && (year % 100 != 0 || year % 400 == 0)

def daysIn (year month : Nat) : Nat :=
  if month == 2 then (if isLeap year then 29 else 28)
  else if month == 4 || month == 6 || month == 9 || month == 11 then 30
  else 31

/-- The calendar has this date. -/
def valid (d : Date) : Bool :=
  1 ≤ d.year && 1 ≤ d.month && d.month ≤ 12 && 1 ≤ d.day && d.day ≤ daysIn d.year d.month

/-- The number of days up to and including this one. -/
def ordinal (d : Date) : Nat :=
  let years := d.year - 1
  let before := years * 365 + years / 4 - years / 100 + years / 400
  (List.range (d.month - 1)).foldl (fun days m => days + daysIn d.year (m + 1)) before + d.day

end Date

/-- A point in time; `offset` is the distance from universal time in minutes, where it is known. -/
structure Moment where
  date : Date
  hour : Nat
  minute : Nat
  second : Nat
  microsecond : Nat
  offset : Option Int
  deriving DecidableEq, Repr

namespace Moment

/-- Minutes on the clock that shows this moment. -/
def minutes (m : Moment) : Int := (m.date.ordinal * 1440 + m.hour * 60 + m.minute : Nat)

/-- The same point in time, whatever the offsets; without an offset a moment is only itself. -/
def same (a b : Moment) : Bool :=
  match a.offset, b.offset with
  | some i, some j =>
    a.minutes - i == b.minutes - j && a.second == b.second && a.microsecond == b.microsecond
  | _, _ => a == b

end Moment

inductive Scalar where
  | null
  | bool (b : Bool)
  | int (n : Int)
  | float (x : Float)
  /-- Not-a-number, which is equal only to itself: two of them are the same key if they come from
  the same source. -/
  | nan (source : Nat)
  | text (s : String)
  | bytes (bs : List UInt8)
  | date (d : Date)
  | moment (m : Moment)
  deriving DecidableEq

namespace Scalar

/-- A floating-point number from this source. -/
def ofFloat (source : Nat) (x : Float) : Scalar := if x.isNaN then .nan source else .float x

/-- The integer that a scalar equals as a number. -/
def integer? : Scalar → Option Int
  | .bool b => some (if b then 1 else 0)
  | .int n => some n
  | .float x => Decimal.integer? x
  | _ => none

/-- The two scalars are the same key. -/
def same (a b : Scalar) : Bool :=
  match a.integer?, b.integer? with
  | some m, some n => m == n
  | none, none =>
    match a, b with
    | .float x, .float y => x == y
    | .moment m, .moment n => m.same n
    | a, b => a == b
  | _, _ => false

/-- Empty, zero and false values count as absent. -/
def truthy : Scalar → Bool
  | .null => false
  | .bool b => b
  | .int n => n != 0
  | .float x => x != 0.0
  | .nan _ => true
  | .text s => s != ""
  | .bytes bs => !bs.isEmpty
  | .date _ => true
  | .moment _ => true

end Scalar

end StyleGate.Config
