import StyleGate.CommandLine.Switch
import StyleGate.Text.Digit
import StyleGate.Text.Quoted

/-!
The words of a command line, each by itself: a switch with or without a value attached, a plain
argument, or something that looks like a switch and is none. Long switches may be shortened to any
beginning that fits only one of them. A word of one dash, a negative number and a word with a space
are plain arguments.
-/

namespace StyleGate.CommandLine

/-- A complaint about the command line. -/
inductive Complaint where
  | ambiguous (word : Text) (candidates : List Text)
  | valueMissing (switch : Switch)
  | valueIgnored (switch : Switch) (value : Text)
  | unrecognized (words : List Text)
  deriving DecidableEq, Repr

def Complaint.message : Complaint → String
  | .ambiguous word candidates =>
    "ambiguous option: " ++ String.ofList word ++ " could match " ++
      ", ".intercalate (candidates.map String.ofList)
  | .valueMissing switch => "argument " ++ switch.label ++ ": expected one argument"
  | .valueIgnored switch value =>
    "argument " ++ switch.label ++ ": ignored explicit argument " ++
      String.ofList (Text.quoted value)
  | .unrecognized words =>
    "unrecognized arguments: " ++ " ".intercalate (words.map String.ofList)

inductive WordKind where
  | plain
  /-- Ends the switches: all later words are plain. -/
  | separator
  /-- A switch, with what stands in the same word after an equals sign or right behind the letter. -/
  | switch (switch : Switch) (short : Bool) (attached : Option Text)
  | unknown
  deriving DecidableEq, Repr

structure Word where
  text : Text
  kind : WordKind
  deriving DecidableEq, Repr

namespace Word

/-- The word before its first equals sign, and what follows the sign. -/
def splitEquals (s : Text) : Text × Option Text :=
  match s.dropWhile (· != '=') with
  | [] => (s, none)
  | _ :: value => (s.takeWhile (· != '='), some value)

def isShort (name : Text) : Bool := name.length == 2

/-- A dash and a decimal number; a final line feed is overlooked. -/
def isNegativeNumber : Text → Bool
  | '-' :: s =>
    let s := if s.getLast? == some '\n' then s.dropLast else s
    match s.dropWhile Text.isDigit with
    | [] => !s.isEmpty
    | '.' :: fraction => !fraction.isEmpty && fraction.all Text.isDigit
    | _ => false
  | _ => false

/-- The switches that a word may be short for, with their names. -/
def candidates (s : Text) : List (Text × Switch × Option Text) :=
  match s with
  | '-' :: '-' :: _ =>
    let (start, value) := splitEquals s
    (Switch.names.filter fun (name, _) => start.isPrefixOf name).map fun (name, switch) =>
      (name, switch, value)
  | _ =>
    (Switch.names.filter fun (name, _) => name == s.take 2).map fun (name, switch) =>
      (name, switch, some (s.drop 2))

/-- A word that starts with a dash and is no switch in full. -/
def classifyOther (s : Text) : Except Complaint WordKind :=
  match candidates s with
  | [(name, switch, attached)] => .ok (.switch switch (isShort name) attached)
  | [] => .ok (if isNegativeNumber s || s.contains ' ' then .plain else .unknown)
  | several => .error (.ambiguous s (several.map Prod.fst))

def classify (s : Text) : Except Complaint WordKind :=
  if s.head? != some '-' then .ok .plain
  else match Switch.ofName? s with
    | some switch => .ok (.switch switch (isShort s) none)
    | none =>
      if s.length == 1 then .ok .plain
      else match splitEquals s with
        | (name, some value) =>
          match Switch.ofName? name with
          | some switch => .ok (.switch switch (isShort name) (some value))
          | none => classifyOther s
        | (_, none) => classifyOther s

/-- All words in order; the first complaint wins. -/
def classifyAll : List Text → Except Complaint (List Word)
  | [] => .ok []
  | s :: rest =>
    if s == ['-', '-'] then .ok (⟨s, .separator⟩ :: rest.map (⟨·, .plain⟩))
    else do
      let kind ← classify s
      return ⟨s, kind⟩ :: (← classifyAll rest)

end Word

end StyleGate.CommandLine
