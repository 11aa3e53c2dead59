import StyleGate.Analysis
import StyleGate.CommandLine.Help
import StyleGate.CommandLine.Options
import StyleGate.CommandLine.Prompt
import StyleGate.Config.File
import StyleGate.Config.Selection
import StyleGate.Log.State
import StyleGate.Report.Render
import StyleGate.SourceFile

/-!
One run of the program. Logging is set up from the environment, the configuration is loaded, logging
is set up again as the configuration says, and then the request is carried out. Everything that is
said goes through logging. The exit status is 0 if all is well, 1 if the report has violations, and
2 if the run failed.
-/

namespace StyleGate.Program

open CommandLine

/-- What ends a run without an exit status. -/
inductive Crash where
  | level (e : Log.LevelError)
  | config (e : Config.LoadError)
  | misuse (e : Config.Misuse)
  | source (e : SourceFile.Error)
  | path (f : PathFault)
  | write (f : WriteFault)
  | input (f : InputFault)

/-- What a run gets from outside besides its arguments and its input: what the environment says
about logging, the time that records show, what loading a configuration takes, and what the system
lets be done to a new file. -/
structure Setting where
  environment : Log.Environment := {}
  time : String := ""
  support : Config.Support := .usual
  disk : Disk := {}

/-- The state of a run; what was written is held last first. -/
structure Session where
  world : World
  log : Log.State := {}
  writes : List Log.Write := []

abbrev Exit := Except Crash Nat

namespace Session

def write (s : Session) (target : Log.Target) (text : String) : Session :=
  { s with writes := ⟨target, text⟩ :: s.writes }

/-- Sends a message to a channel. -/
def say (s : Session) (setting : Setting) (channel : String) (level : Int) (message : String) :
    Session :=
  match s.log.emit setting.time ⟨channel, level, message⟩ with
  | some w => { s with writes := w :: s.writes }
  | none => s

def configure (s : Session) (setting : Setting) (asked : Config.Value) : Except Crash Session :=
  match Log.configure setting.environment asked s.log with
  | .ok log => .ok { s with log := log }
  | .error e => .error (.level e)

end Session

def cliChannel : String := "sharpcheck.cli"

def configChannel : String := "sharpcheck.config"

def documentChannel : String := "sharpcheck.document"

def analyzerChannel : String := "sharpcheck.analyzer"

def duplicationChannel : String := "sharpcheck.rules.duplication"

def spacingChannel : String := "sharpcheck.rules.spacing"

def failed : Nat := 2

/-- What a rule remarks about a document apart from its violations. -/
def remarks (d : Document) : Rule → List (String × String)
  | .duplicateBlock => (Rule.firstRepeat? d).toList.map fun n =>
    (duplicationChannel, "Duplicate block at line " ++ toString n)
  | .subroutineSpacing => (Rule.unclosedBodies d).map fun n =>
    (spacingChannel, "Unterminated body for signature on line " ++ toString n)
  | _ => []

/-- What is said about one rule: its remarks and how much it found. -/
def chatter (d : Document) (r : Rule) : List (String × String) :=
  remarks d r ++ [(analyzerChannel, "Rule " ++ toString r.number ++ " (" ++ r.name ++ "): " ++
    toString (r.check d).length ++ " violation(s)")]

def sayReportLines (setting : Setting) (lines : List String) (s : Session) : Session :=
  lines.foldl (fun s line => s.say setting Log.reportChannel Log.info line) s

def complain (setting : Setting) (colour : Bool) (message : String) (s : Session) : Session :=
  s.say setting cliChannel Log.error (Colour.red.paint colour message)

/-- Runs the rules over a loaded document and reports. -/
def report (setting : Setting) (colour : Bool) (rules : List Rule) (d : Document) (s : Session) :
    Session × Nat :=
  let s := ((Rule.inOrder rules).flatMap (chatter d)).foldl
    (fun s (channel, message) => s.say setting channel Log.debug message) s
  let r := analyzeWith rules d
  (sayReportLines setting (r.render colour) s, r.exitStatus)

/-- Analyzes the file at a path under a configuration. -/
def analyzeFile (setting : Setting) (settings : Config.Settings) (colour : Bool) (path : Text)
    (s : Session) : Session × Exit :=
  if path.isEmpty then (complain setting colour "Error: File not found." s, .ok failed)
  else
    let p := Path.ofText path
    match SourceFile.load s.world p with
    | .error (.unknowable q) => (s, .error (.source (.unknowable q)))
    | .error e => (complain setting colour ("Error: " ++ e.message) s, .ok failed)
    | .ok d =>
      let s := s.say setting documentChannel Log.debug
        ("Loaded " ++ p.name ++ " (" ++ toString d.text.length ++ " chars)")
      match Config.enabledRules settings with
      | .error e => (s, .error (.misuse e))
      | .ok rules =>
        let (s, status) := report setting colour rules d s
        (s, .ok status)

/-- Writes a first configuration file. -/
def writeConfig (setting : Setting) (path : Path) (s : Session) : Session × Except Crash Bool :=
  match Config.writeFirst setting.disk path s.world with
  | .error f w => ({ s with world := w }, .error (.write f))
  | .ok false w =>
    ({ s with world := w }.say setting configChannel Log.warning
      (path.toString ++ " already exists"), .ok false)
  | .ok true w =>
    ({ s with world := w }.say setting configChannel Log.info ("Created " ++ path.toString),
      .ok true)

/-- How far a run gets without asking for a path. -/
inductive Phase where
  | finished (s : Session) (exit : Exit)
  /-- A path is to be analyzed; without one it has to be asked for. -/
  | ready (s : Session) (settings : Config.Settings) (colour : Bool) (path : Option Text)

/-- The field of a configuration that asks for a level. -/
def askedLevel (settings : Config.Settings) : Config.Value :=
  (Config.field? settings "log_level").getD .null

def wantsColour (settings : Config.Settings) (o : Options) : Bool :=
  (Config.field? settings "color").all Config.Value.truthy && !o.noColour

/-- Carries out a request once its configuration is in force. -/
def obey (setting : Setting) (o : Options) (settings : Config.Settings) (s : Session) : Phase :=
  let colour := wantsColour settings o
  if o.validate then
    .finished (s.say setting cliChannel Log.info "sharpcheck config is valid") (.ok 0)
  else if o.showRules then
    match Config.enabledRules settings with
    | .error e => .finished s (.error (.misuse e))
    | .ok rules => .finished (sayReportLines setting (Rule.catalogue rules colour) s) (.ok 0)
  else .ready s settings colour o.path

/-- The path of the configuration that is asked for; an empty one counts as none. -/
def configPath (o : Options) : Option Path := (o.config.filter (!·.isEmpty)).map Path.ofText

/-- Loads the configuration and puts it in force. -/
def withConfig (setting : Setting) (o : Options) (s : Session) : Phase :=
  match Config.choose s.world (configPath o) with
  | .error f => .finished s (.error (.path f))
  | .ok source =>
    match Config.loadFrom setting.support s.world source with
    | .error (.rejected label reason) =>
      .finished (s.say setting cliChannel Log.error ("Config error: " ++ reason.message label))
        (.ok failed)
    | .error e => .finished s (.error (.config e))
    | .ok settings =>
      let s := s.say setting configChannel Log.debug
        ("Loaded config from " ++ source.label s.world)
      match s.configure setting (askedLevel settings) with
      | .error e => .finished s (.error e)
      | .ok s => obey setting o settings s

/-- Carries out what needs no path. -/
def prepare (setting : Setting) (o : Options) (s : Session) : Phase :=
  match s.configure setting .null with
  | .error e => .finished s (.error e)
  | .ok s =>
    if o.init then
      let (s, made) := writeConfig setting ⟨0, [Config.fileName]⟩ s
      .finished s (made.map fun made => if made then 0 else failed)
    else withConfig setting o s

/-- Finishes a run, asking for the path if there is none. -/
def conclude (setting : Setting) (input : StandardInput) : Phase → Session × Exit
  | .finished s exit => (s, exit)
  | .ready s settings colour (some path) => analyzeFile setting settings colour path s
  | .ready s settings colour none =>
    let s := if input.isOpen then s.write .stdout question else s
    match answer input with
    | .error f => (s, .error (.input f))
    | .ok path => analyzeFile setting settings colour path s

/-- One run of the program. -/
def run (setting : Setting) (world : World) (args : List Text) (input : StandardInput) :
    Session × Exit :=
  let s : Session := { world := world }
  match parse args with
  | .help => (s.write .stdout help, .ok 0)
  | .version => (s.write .stdout version, .ok 0)
  | .reject c => (s.write .stderr (rejection c), .ok failed)
  | .run o => conclude setting input (prepare setting o s)

/-- Everything written to one target, in order. -/
def Session.written (s : Session) (target : Log.Target) : String :=
  String.join ((s.writes.reverse.filter fun w => w.target == target).map Log.Write.text)

end StyleGate.Program
