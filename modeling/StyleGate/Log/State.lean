import StyleGate.Log.Record

/-!
The state of logging. Channels have dotted names and form a tree; the program's channel has a level,
its child for reports another, and a level of zero is taken over from above. A channel stands below
the nearest channel in use whose name it continues after a dot, where of several dots in a row only
the last and every second before it count. Once logging is configured, the program's records go to
standard output, in a form that the first configuration settles for good. Records of other channels,
and all records before that, go to standard error if they are at least warnings.
-/

namespace StyleGate.Log

open Config

/-- What the environment says about logging. -/
structure Environment where
  level : Option String := none
  format : Option String := none
  deriving DecidableEq, Repr

structure State where
  /-- The form of records on standard output, once there is one. -/
  sink : Option Format := none
  level : Int := 0
  reportLevel : Int := 0
  /-- The channels in use besides those two. -/
  channels : List String := []
  deriving DecidableEq, Repr

def rootChannel : String := "sharpcheck"

def reportChannel : String := "sharpcheck.report"

/-- JSON is asked for in any mixture of cases. -/
def Environment.chosenFormat (e : Environment) : Format :=
  if (e.format.getD "").toList.map Char.toLower == "json".toList then .json else .plain

/-- Sets the level that is asked for; reports are never held back by a higher one. If there is no
such level nothing changes. -/
def configure (e : Environment) (asked : Value) (s : State) : Except LevelError State := do
  let level ← resolve asked e.level
  return { s with
    sink := some (s.sink.getD e.chosenFormat), level := level, reportLevel := min level info }

/-- The places of the dots in a name, last first. -/
def dotPlaces (name : Text) : List Nat :=
  (name.foldl (fun (places, i) c => (if c == '.' then i :: places else places, i + 1))
    (([] : List Nat), 0)).1

/-- Of the dots, last first, those that are below `bound` and not right before one already taken. A
dot at the very front ends the search. -/
def cutPlaces (bound : Nat) : List Nat → List Nat
  | [] => []
  | p :: ps =>
    if bound ≤ p then cutPlaces bound ps
    else if p == 0 then []
    else p :: cutPlaces (p - 1) ps

/-- The names that a channel may stand below, the nearest first. -/
def beginnings (channel : String) : List String :=
  let name := channel.toList
  (cutPlaces name.length (dotPlaces name)).map fun p => String.ofList (name.take p)

def State.inUse (s : State) (channel : String) : Bool :=
  channel == rootChannel || channel == reportChannel || s.channels.contains channel

/-- A channel and those above it, at most `depth` of them. -/
def State.lineageFrom (s : State) (depth : Nat) (channel : String) : List String :=
  match depth with
  | 0 => []
  | depth + 1 =>
    channel :: match (beginnings channel).find? s.inUse with
      | some above => s.lineageFrom depth above
      | none => []

/-- A channel and those above it, whose names are shorter. -/
def State.lineage (s : State) (channel : String) : List String :=
  s.lineageFrom (channel.length + 1) channel

/-- The level that a channel has of its own, zero for none. -/
def State.ownLevel (s : State) (channel : String) : Int :=
  if channel == rootChannel then s.level
  else if channel == reportChannel then s.reportLevel
  else 0

/-- The nearest level upwards that is not zero; above all channels it is that of warnings. -/
def State.effectiveLevel (s : State) (channel : String) : Int :=
  (((s.lineage channel).map s.ownLevel).find? (· != 0)).getD warning

/-- A record passes from its channel's level on; a level of zero or below never passes. -/
def State.passes (s : State) (r : Record) : Bool :=
  0 < r.level && s.effectiveLevel r.channel ≤ r.level

/-- The channel is the program's or below it. -/
def State.inTree (s : State) (channel : String) : Bool :=
  (s.lineage channel).contains rootChannel

inductive Target where
  | stdout
  | stderr
  deriving DecidableEq, Repr

/-- What is written where. -/
structure Write where
  target : Target
  text : String
  deriving DecidableEq, Repr

/-- Where a record goes, if it goes anywhere. -/
def State.emit (s : State) (time : String) (r : Record) : Option Write :=
  if !s.passes r then none
  else match s.sink, s.inTree r.channel with
    | some format, true => some ⟨.stdout, r.render format time ++ "\n"⟩
    | _, _ => if warning ≤ r.level then some ⟨.stderr, r.message ++ "\n"⟩ else none

/-- Takes a channel into use and sends it a record. -/
def State.send (s : State) (time : String) (r : Record) : State × Option Write :=
  let s := if s.inUse r.channel then s else { s with channels := r.channel :: s.channels }
  (s, s.emit time r)

end StyleGate.Log
