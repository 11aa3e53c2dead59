import StyleGate.Files.Path

/-!
A tree of files and directories, and how a path is followed through it. A directory is entered
before its entry is looked up, so a missing directory is noticed before a name that is too long
further down, and a file on the way makes the rest unreachable.
-/

namespace StyleGate

inductive Entry where
  | file (content : ByteArray)
  | directory

/-- Why a path leads nowhere. -/
inductive PathFault where
  /-- There is no such entry. -/
  | missing
  /-- A file stands where a directory is needed. -/
  | notDirectory
  /-- A part or the whole path is longer than the system allows. -/
  | tooLong
  /-- The path holds the NUL character, which no name can. -/
  | holdsNul
  deriving DecidableEq, Repr

/-- Entries by the parts of their paths from the root, which is always a directory. -/
structure FileTree where
  entries : List (List String × Entry)

namespace FileTree

def empty : FileTree := ⟨[]⟩

def find? (t : FileTree) (parts : List String) : Option Entry :=
  if parts.isEmpty then some .directory else t.entries.lookup parts

/-- Puts an entry in place, over any entry that has this path. -/
def insert (t : FileTree) (parts : List String) (e : Entry) : FileTree :=
  if t.entries.any fun (p, _) => p == parts then
    ⟨t.entries.map fun (p, old) => if p == parts then (p, e) else (p, old)⟩
  else ⟨t.entries ++ [(parts, e)]⟩

def erase (t : FileTree) (parts : List String) : FileTree :=
  ⟨t.entries.filter fun (p, _) => p != parts⟩

def content? (t : FileTree) (parts : List String) : Option ByteArray :=
  match t.find? parts with
  | some (.file content) => some content
  | _ => none

/-- The files that the tree `before` lacks or holds with other content. -/
def changesSince (t before : FileTree) : List (List String × ByteArray) :=
  t.entries.filterMap fun
    | (parts, .file content) =>
      if before.content? parts == some content then none else some (parts, content)
    | (_, .directory) => none

/-- Makes a directory and those above it, where there is nothing yet. -/
def insertDirectories (t : FileTree) (parts : List String) : FileTree :=
  (List.range parts.length).foldl (fun t k =>
    let front := parts.take (k + 1)
    if (t.find? front).isSome then t else t.insert front .directory) t

/-- A longest name of 255 bytes. -/
def longestName : Nat := 255

/-- Follows parts from a place in the tree whose entry is known. -/
def follow (t : FileTree) (place : List String) (entry : Entry) :
    List String → Except PathFault (List String × Entry)
  | [] => .ok (place, entry)
  | part :: rest =>
    match entry with
    | .file _ => .error .notDirectory
    | .directory =>
      if part == ".." then follow t place.dropLast .directory rest
      else if part.utf8ByteSize > longestName then .error .tooLong
      else match t.find? (place ++ [part]) with
        | none => .error .missing
        | some e => follow t (place ++ [part]) e rest

end FileTree

/-- Where the program runs: the files, the working directory and the home directory, and the name
under which messages speak of the bundled configuration. -/
structure World where
  tree : FileTree
  cwd : List String
  home : List String
  bundledName : String

namespace World

/-- A longest path of 4095 bytes. -/
def longestPath : Nat := 4095

/-- Where a path leads. -/
def locate (w : World) (p : Path) : Except PathFault (List String × Entry) :=
  if p.toString.contains '\x00' then .error .holdsNul
  else if p.toString.utf8ByteSize > longestPath then .error .tooLong
  else w.tree.follow (if p.slashes == 0 then w.cwd else []) .directory p.parts

/-- The entry at a path, if there is one. Only a path that is too long is a fault: the system
refuses to say whether it exists. -/
def entry? (w : World) (p : Path) : Except PathFault (Option Entry) :=
  match w.locate p with
  | .ok (_, e) => .ok (some e)
  | .error .tooLong => .error .tooLong
  | .error _ => .ok none

end World

end StyleGate
