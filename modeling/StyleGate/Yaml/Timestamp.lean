import StyleGate.Config.Scalar
import StyleGate.Text.Class

/-!
Dates and points in time as YAML writes them: a date, perhaps a time with a fraction, perhaps an
offset from universal time.
-/

namespace StyleGate.Yaml

open Config

/-- A time of day with the digits of the fraction of its seconds, and an offset in minutes. -/
structure ClockText where
  hour : Nat
  minute : Nat
  second : Nat
  fraction : Text
  offset : Option Int
  deriving DecidableEq, Repr

/-- A date and perhaps a time, as written. -/
structure Timestamp where
  date : Date
  clock : Option ClockText
  deriving DecidableEq, Repr

namespace Timestamp

def number (digits : Text) : Nat := digits.foldl (fun n c => n * 10 + (c.toNat - '0'.toNat)) 0

/-- Reads at least `least` and at most `most` digits. -/
def digits? (least most : Nat) (s : Text) : Option (Nat × Text) :=
  let run := (s.take most).takeWhile Char.isDigit
  if run.length < least then none else some (number run, s.drop run.length)

def char? (c : Char) : Text → Option Text
  | d :: s => if c == d then some s else none
  | [] => none

def isSpace (c : Char) : Bool := c == ' ' || c == '\t'

/-- The offset that ends a timestamp, if there is one. -/
def offset? (s : Text) : Option (Option Int) :=
  if s.isEmpty then some none
  else match s.dropWhile isSpace with
    | ['Z'] => some (some 0)
    | sign :: r => do
      if sign != '+' && sign != '-' then none
      let (hours, r) ← digits? 1 2 r
      let minutes ← if r.isEmpty then some 0 else do
        let (minutes, r) ← digits? 2 2 (← char? ':' r)
        if r.isEmpty then some minutes else none
      let size : Int := (hours * 60 + minutes : Nat)
      return some (if sign == '-' then -size else size)
    | [] => none

def clock? (s : Text) : Option ClockText := do
  let (hour, s) ← digits? 1 2 s
  let (minute, s) ← digits? 2 2 (← char? ':' s)
  let (second, s) ← digits? 2 2 (← char? ':' s)
  let (fraction, s) := match s with
    | '.' :: r => (r.takeWhile Char.isDigit, r.dropWhile Char.isDigit)
    | s => ([], s)
  return ⟨hour, minute, second, fraction, ← offset? s⟩

/-- What separates the time from the date is a letter or blanks. -/
def afterDate? : Text → Option Text
  | 'T' :: s => some s
  | 't' :: s => some s
  | c :: s => if isSpace c then some (s.dropWhile isSpace) else none
  | [] => none

def parse? (s : Text) : Option Timestamp := do
  let (year, s) ← digits? 4 4 s
  let (month, s) ← digits? 1 2 (← char? '-' s)
  let (day, s) ← digits? 1 2 (← char? '-' s)
  if s.isEmpty then return ⟨⟨year, month, day⟩, none⟩
  return ⟨⟨year, month, day⟩, some (← clock? (← afterDate? s))⟩

/-- A date by itself counts as one only with two digits for month and day. -/
def isPlain (s : Text) : Bool :=
  match parse? s with
  | some ⟨_, some _⟩ => true
  | some ⟨_, none⟩ => s.length == 10
  | none => false

/-- The offset is less than a day either way. -/
def validClock (c : ClockText) : Bool :=
  c.hour < 24 && c.minute < 60 && c.second < 60 &&
    c.offset.all fun minutes => minutes.natAbs < 24 * 60

/-- The first six digits of a fraction count, and missing ones are zero. -/
def microseconds (fraction : Text) : Nat :=
  number ((fraction ++ List.replicate 6 '0').take 6)

/-- The date or point in time, if the calendar and the clock have it. -/
def scalar? (t : Timestamp) : Option Scalar :=
  if !t.date.valid then none
  else match t.clock with
    | none => some (.date t.date)
    | some c =>
      if validClock c then
        some (.moment ⟨t.date, c.hour, c.minute, c.second, microseconds c.fraction, c.offset⟩)
      else none

end Timestamp

end StyleGate.Yaml
