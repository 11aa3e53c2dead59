import StyleGate.Files.Tree

/-!
Writing a new file. It is made empty, then its content is written to it, and last its mode is set.
The system may refuse any of these, and what was done before that stays done.
-/

namespace StyleGate

/-- What the system lets be done to a new file: whether it can be made, how many bytes there is room
for if they are limited, and whether its mode can be set. -/
structure Disk where
  makesFile : Bool := true
  room : Option Nat := none
  setsMode : Bool := true
  deriving DecidableEq, Repr

inductive WriteFault where
  /-- The path leads to no place for a file. -/
  | path (f : PathFault)
  | notMade
  | noRoom
  | modeNotSet
  deriving DecidableEq, Repr

/-- A computation on the world. What it did before it failed stays done. -/
abbrev Writing := EStateM WriteFault World

namespace Writing

/-- Puts a file in its place. -/
def put (place : List String) (content : ByteArray) : Writing Unit :=
  modify fun w => { w with tree := w.tree.insert place (.file content) }

/-- Makes an empty file, whose directory must be there, and gives its place. -/
def makeFile (disk : Disk) (path : Path) : Writing (List String) := do
  match (← get).locate ⟨path.slashes, path.parts.dropLast⟩ with
  | .error f => throw (.path f)
  | .ok (_, .file _) => throw (.path .notDirectory)
  | .ok (directory, .directory) =>
    if !disk.makesFile then throw .notMade
    let place := directory ++ path.parts.getLast?.toList
    put place .empty
    return place

/-- Writes as much of the content as there is room for. -/
def fill (disk : Disk) (place : List String) (content : ByteArray) : Writing Unit := do
  let room := disk.room.getD content.size
  put place (content.extract 0 room)
  if room < content.size then throw .noRoom

def setMode (disk : Disk) : Writing Unit := do
  if !disk.setsMode then throw .modeNotSet

/-- Writes a new file. -/
def newFile (disk : Disk) (path : Path) (content : ByteArray) : Writing Unit := do
  let place ← makeFile disk path
  fill disk place content
  setMode disk

end Writing

end StyleGate
