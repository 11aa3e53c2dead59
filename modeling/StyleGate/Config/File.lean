import StyleGate.Config.Default
import StyleGate.Config.Validation
import StyleGate.Files.Writing
import StyleGate.Yaml.Value

/-!
Configuration files: where they are looked for, how one is loaded, and how a first one is written.
A configuration must exist, must not be too large, and must hold one YAML mapping with nothing to
complain about. How YAML is read is left open.
-/

namespace StyleGate.Config

/-- What loading takes from outside: a reader of YAML, and how many levels are left for spelling a
value. -/
structure Support where
  yaml : Yaml.Reader
  depth : Nat

def Support.usual : Support := ⟨Yaml.reader, freshDepth⟩

/-- A configuration file, or the bundled configuration. -/
inductive Source where
  | file (path : Path)
  | bundled
  deriving DecidableEq, Repr

/-- How messages name a source. -/
def Source.label (w : World) : Source → String
  | .file path => path.toString
  | .bundled => w.bundledName

/-- The places in which a configuration file is looked for, in order. -/
def places (w : World) : List Path :=
  [⟨0, [fileName]⟩, ⟨0, ["config", fileName]⟩,
    ⟨1, w.home ++ [".config", "sharpcheck", fileName]⟩]

/-- The first place that exists. -/
def find (w : World) : Except PathFault (Option Path) :=
  (places w).foldlM (fun found place => do
    match found with
    | some p => return some p
    | none => return if (← w.entry? place).isSome then some place else none) none

/-- The given file, else the first file found, else the bundled configuration. -/
def choose (w : World) : Option Path → Except PathFault Source
  | some path => .ok (.file path)
  | none => (find w).map fun
    | some path => .file path
    | none => .bundled

/-- The greatest size in bytes. -/
def sizeLimit : Nat := 1000000

/-- Why a configuration is rejected. -/
inductive Rejection where
  | notFound
  | tooLarge
  | isDirectory
  /-- The place of the fault is not known for characters that YAML does not allow. -/
  | malformed (mark : Option Yaml.Mark)
  | notMapping
  /-- The complaints, as messages. -/
  | invalid (complaints : List String)

def Rejection.message (label : String) : Rejection → String
  | .notFound => "Config file not found: " ++ label
  | .tooLarge => "Config file too large (max 1MB): " ++ label
  | .isDirectory => "Cannot read " ++ label ++ ": [Errno 21] Is a directory: " ++ quote label
  | .malformed none => label ++ " is malformed"
  | .malformed (some m) =>
    label ++ " is malformed (line " ++ toString (m.line + 1) ++ ", column " ++
      toString (m.column + 1) ++ ")"
  | .notMapping => label ++ " must contain a mapping at top level"
  | .invalid complaints =>
    label ++ " is invalid: " ++ "; ".intercalate complaints

/-- Why no configuration was loaded. -/
inductive LoadError where
  | rejected (label : String) (reason : Rejection)
  /-- The file holds text or a scalar that has no value, which is not a rejection. -/
  | faulty (fault : Yaml.Fault)
  /-- There is something to complain about that cannot be spelled. -/
  | unspellable (e : SpellingError)
  /-- The system cannot tell whether the path exists. -/
  | unknowable

/-- The fields of a configuration about which there is nothing to complain. -/
abbrev Settings := Fields

def check (depth : Nat) (label : String) (fields : Fields) : Except LoadError Settings :=
  match (complaints fields).mapM (Complaint.message depth) with
  | .error e => .error (.unspellable e)
  | .ok [] => .ok fields
  | .ok messages => .error (.rejected label (.invalid messages))

/-- An empty value stands for an empty mapping. -/
def settings (depth : Nat) (label : String) (value : Option Value) :
    Except LoadError Settings :=
  match (value.filter Value.truthy).map Value.layer with
  | none => check depth label []
  | some (.map fields) => check depth label fields
  | some _ => .error (.rejected label .notMapping)

/-- The configuration that the content of a file holds. -/
def read (support : Support) (label : String) (content : ByteArray) :
    Except LoadError Settings :=
  if content.size > sizeLimit then .error (.rejected label .tooLarge)
  else match support.yaml (.ofBytes content) with
    | .ok v => settings support.depth label v
    | .error (.malformed m) => .error (.rejected label (.malformed (some m)))
    | .error .unprintable => .error (.rejected label (.malformed none))
    | .error f => .error (.faulty f)

def loadFrom (support : Support) (w : World) (source : Source) : Except LoadError Settings :=
  let label := source.label w
  match source with
  | .bundled => read support label defaultBytes
  | .file path =>
    match w.entry? path with
    | .error _ => .error .unknowable
    | .ok none => .error (.rejected label .notFound)
    | .ok (some .directory) => .error (.rejected label .isDirectory)
    | .ok (some (.file content)) => read support label content

def load (support : Support) (w : World) (path : Option Path) : Except LoadError Settings :=
  match choose w path with
  | .error _ => .error .unknowable
  | .ok source => loadFrom support w source

/-- Writes the bundled configuration to a path, unless something is there already; says whether it
was written. -/
def writeFirst (disk : Disk) (path : Path) : Writing Bool := do
  match (← get).locate path with
  | .ok _ => return false
  | .error .tooLong => throw (.path .tooLong)
  | .error .holdsNul => throw (.path .holdsNul)
  | .error _ =>
    Writing.newFile disk path defaultBytes
    return true

end StyleGate.Config
