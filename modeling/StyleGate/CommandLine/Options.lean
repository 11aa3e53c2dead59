import StyleGate.CommandLine.Word

/-!
What a command line asks for. Switches act in order, and asking for help or the version ends the
reading at once. The first plain argument is the path to analyze; further ones and unknown switches
are complained about at the end.
-/

namespace StyleGate.CommandLine

structure Options where
  path : Option Text := none
  config : Option Text := none
  noColour : Bool := false
  showRules : Bool := false
  validate : Bool := false
  init : Bool := false
  deriving DecidableEq, Repr

inductive Request where
  | run (options : Options)
  | help
  | version
  | reject (complaint : Complaint)
  deriving DecidableEq, Repr

/-- Why the reading ends early. -/
inductive Stop where
  | help
  | version
  | reject (complaint : Complaint)
  deriving DecidableEq, Repr

def Stop.request : Stop → Request
  | .help => .help
  | .version => .version
  | .reject c => .reject c

/-- The switches that one word holds; the last of them perhaps has a value. -/
structure Expansion where
  switches : List Switch
  last : Switch
  value : Option Text
  deriving DecidableEq, Repr

/-- Reads what is attached to a switch. Behind a letter that takes no value, all further letters must
be switches. -/
def expand (switch : Switch) (short : Bool) (attached : Text) : Except Complaint Expansion :=
  if switch.takesValue then .ok ⟨[], switch, some attached⟩
  else match attached with
    | [] => .error (.valueIgnored switch [])
    | c :: rest =>
      match (if short then Switch.ofName? ['-', c] else none), rest with
      | none, _ => .error (.valueIgnored switch (c :: rest))
      | some next, [] => .ok ⟨[switch], next, none⟩
      | some next, d :: rest =>
        (expand next true (d :: rest)).map fun e => { e with switches := switch :: e.switches }
termination_by attached.length

/-- The reading so far: the options, whether a path may still come, and the words that are not
recognized, last first. -/
structure Reading where
  options : Options := {}
  pathExpected : Bool := true
  extras : List Text := []
  deriving DecidableEq, Repr

/-- What a switch does. -/
def act (o : Options) : Switch → Option Text → Except Stop Options
  | .help, _ => .error .help
  | .version, _ => .error .version
  | .config, value => .ok { o with config := value }
  | .noColour, _ => .ok { o with noColour := true }
  | .showRules, _ => .ok { o with showRules := true }
  | .validate, _ => .ok { o with validate := true }
  | .init, _ => .ok { o with init := true }

def actAll (o : Options) (e : Expansion) : Except Stop Options := do
  let o ← e.switches.foldlM (fun o s => act o s none) o
  act o e.last e.value

/-- Gives the last switch of a word its value, if it needs one and has none: the next word, which
must be plain. -/
def supply (e : Expansion) (rest : List Word) : Except Complaint (Expansion × List Word) :=
  if !e.last.takesValue || e.value.isSome then .ok (e, rest)
  else match rest with
    | ⟨text, .plain⟩ :: rest => .ok ({ e with value := some text }, rest)
    | _ => .error (.valueMissing e.last)

def expansionOf (switch : Switch) (short : Bool) : Option Text → Except Complaint Expansion
  | none => .ok ⟨[], switch, none⟩
  | some attached => expand switch short attached

/-- One word with switches, and the words after it. -/
def readSwitch (r : Reading) (switch : Switch) (short : Bool) (attached : Option Text)
    (rest : List Word) : Except Stop (Reading × List Word) := do
  let e ← (expansionOf switch short attached).mapError .reject
  let (e, rest) ← (supply e rest).mapError .reject
  let options ← actAll r.options e
  return ({ r with options := options }, rest)

def Word.isPlain (w : Word) : Bool := w.kind == .plain

def Word.isSwitch (w : Word) : Bool :=
  match w.kind with
  | .plain => false
  | .separator => false
  | _ => true

def takePath (r : Reading) (path : Option Text) : Reading :=
  { r with options := { r.options with path := path }, pathExpected := false }

/-- The words after the last switch. A separator right before or after the path belongs to it. -/
def readTail (r : Reading) (words : List Word) : Reading :=
  let (r, rest) :=
    if !r.pathExpected then (r, words)
    else match words with
      | ⟨_, .separator⟩ :: w :: rest => (takePath r (some w.text), rest)
      | [⟨_, .separator⟩] => (takePath r none, [])
      | w :: ⟨_, .separator⟩ :: rest => (takePath r (some w.text), rest)
      | w :: rest => (takePath r (some w.text), rest)
      | [] => (takePath r none, [])
  { r with extras := (rest.map Word.text).reverse ++ r.extras }

/-- Reads words one after the other; every turn takes at least one. -/
def readWords (fuel : Nat) (r : Reading) (words : List Word) : Except Stop Reading := do
  match fuel with
  | 0 => return r
  | fuel + 1 =>
    if !words.any Word.isSwitch then return readTail r words
    match words with
    | [] => return r
    | w :: rest =>
      match w.kind with
      | .switch switch short attached =>
        let (r, rest) ← readSwitch r switch short attached rest
        readWords fuel r rest
      | .unknown => readWords fuel { r with extras := w.text :: r.extras } rest
      | _ =>
        if r.pathExpected then readWords fuel (takePath r (some w.text)) rest
        else readWords fuel { r with extras := w.text :: r.extras } rest

def finish (r : Reading) : Request :=
  if r.extras.isEmpty then .run r.options else .reject (.unrecognized r.extras.reverse)

/-- What a command line asks for. -/
def parse (args : List Text) : Request :=
  match Word.classifyAll args with
  | .error c => .reject c
  | .ok words =>
    match readWords (words.length + 1) {} words with
    | .error stop => stop.request
    | .ok r => finish r

end StyleGate.CommandLine
