import StyleGate.Document
import StyleGate.Files.Tree
import StyleGate.Text.Utf8

/-!
Loading a source file: it must be a regular file of at most five million bytes and hold UTF-8.
-/

namespace StyleGate.SourceFile

/-- The greatest size in bytes. -/
def sizeLimit : Nat := 5000000

inductive Error where
  | notFound (path : Path)
  | tooLarge (path : Path) (size : Nat)
  | undecodable (path : Path) (fault : Utf8.Fault)
  /-- The system cannot tell whether the path exists. -/
  | unknowable (path : Path)
  deriving DecidableEq, Repr

def Error.message : Error → String
  | .notFound path => "File not found: " ++ path.toString
  | .tooLarge path size =>
    "File too large: " ++ path.toString ++ " (" ++ toString size ++ " bytes, max " ++
      toString sizeLimit ++ ")"
  | .undecodable path fault => "Cannot read " ++ path.toString ++ ": " ++ fault.message
  | .unknowable path => "File name too long: " ++ path.toString

/-- The text of a file, with every line break as a line feed. -/
def readText (path : Path) (content : ByteArray) : Except Error Text :=
  if content.size > sizeLimit then .error (.tooLarge path content.size)
  else match Utf8.decodeMarked content with
    | .ok s => .ok (Text.unifyBreaks s)
    | .error fault => .error (.undecodable path fault)

def load (w : World) (path : Path) : Except Error Document :=
  match w.entry? path with
  | .error _ => .error (.unknowable path)
  | .ok (some (.file content)) => (readText path content).map Document.ofText
  | .ok _ => .error (.notFound path)

end StyleGate.SourceFile
