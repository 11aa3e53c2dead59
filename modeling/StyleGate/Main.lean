import Std.Time
import StyleGate.Program

/-!
The command. It takes a picture of the few files that a run can look at, runs the program on the
picture, prints what the program wrote, and saves the files that it made.
-/

namespace StyleGate.Main

open Program

/-- What stands at a place on disk, below the root. -/
def probe (parts : List String) : IO (Option Entry) := do
  let place := (← IO.currentDir) / ("/" ++ "/".intercalate parts)
  if ← place.isDir then return some .directory
  try return some (.file (← IO.FS.readBinFile place)) catch _ => return none

/-- Adds what stands along a path to the picture, as far as there is anything. -/
def picture (tree : FileTree) (place : List String) : List String → IO FileTree
  | [] => return tree
  | part :: rest => do
    if part == ".." then picture tree place.dropLast rest
    else
      let next := place ++ [part]
      match ← probe next with
      | none => return tree
      | some entry => picture (tree.insert next entry) next rest

/-- Adds a path of the program to the picture. -/
def picturePath (w : World) (p : Path) : IO World := do
  let tree ← picture w.tree (if p.slashes == 0 then w.cwd else []) p.parts
  return { w with tree := tree }

def partsOf (path : String) : List String := (Path.ofString path).parts

/-- The world before a run, without the file to analyze. -/
def worldFor (o : CommandLine.Options) : IO World := do
  let cwd := partsOf (← IO.currentDir).toString
  let home := partsOf ((← IO.getEnv "HOME").getD "/")
  let w : World := ⟨← picture .empty [] cwd, cwd, home, "default.yaml"⟩
  (Config.places w ++ (configPath o).toList).foldlM picturePath w

def setting : IO Setting := do
  let now ← Std.Time.PlainDateTime.now
  return {
    environment := ⟨← IO.getEnv "SHARPCHECK_LOG_LEVEL", ← IO.getEnv "SHARPCHECK_LOG_FORMAT"⟩
    time := now.format "yyyy-MM-dd HH:mm:ss,SSS" }

def printWrites (s : Session) : IO Unit := do
  for w in s.writes.reverse do
    match w.target with
    | .stdout => IO.print w.text
    | .stderr => IO.eprint w.text
  (← IO.getStdout).flush

/-- Saves the files that a run made. -/
def saveChanges (before after : World) : IO Unit := do
  for (parts, content) in after.tree.changesSince before.tree do
    IO.FS.writeBinFile ((← IO.currentDir) / ("/" ++ "/".intercalate parts)) content

/-- The status of a run that crashed is one. -/
def status : Exit → UInt32
  | .ok n => n.toUInt32
  | .error _ => 1

/-- Standard input up to the end of its first line. -/
def standardInput : IO CommandLine.StandardInput := do
  try return .stream [(← (← IO.getStdin).getLine).toUTF8] false
  catch _ => return .stream [] true

/-- Analyzes a path of which the picture may not know yet. -/
def analyzeOnDisk (setting : Setting) (settings : Config.Settings) (colour : Bool) (path : Text)
    (s : Session) : IO UInt32 := do
  let w ← picturePath s.world (Path.ofText path)
  let (s, exit) := analyzeFile setting settings colour path { s with world := w }
  printWrites s
  return status exit

def runOptions (o : CommandLine.Options) : IO UInt32 := do
  let setting ← setting
  let before ← worldFor o
  match prepare setting o { world := before } with
  | .finished s exit =>
    printWrites s
    saveChanges before s.world
    return status exit
  | .ready s settings colour (some path) => analyzeOnDisk setting settings colour path s
  | .ready s settings colour none =>
    printWrites (s.write .stdout CommandLine.question)
    match CommandLine.answer (← standardInput) with
    | .ok path => analyzeOnDisk setting settings colour path { s with writes := [] }
    | .error f => return status (.error (.input f))

end StyleGate.Main

open StyleGate in
def main (args : List String) : IO UInt32 := do
  match CommandLine.parse (args.map String.toList) with
  | .run o => Main.runOptions o
  | _ =>
    let world : World := ⟨.empty, [], [], ""⟩
    let (s, exit) := Program.run {} world (args.map String.toList) (.stream [] false)
    Main.printWrites s
    return Main.status exit
