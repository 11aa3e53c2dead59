import StyleGate.Text.Blank
import StyleGate.Text.Utf8

/-!
Asking for the path of the file to analyze. The answer is one line of standard input. Its bytes come
in pieces of any size, and each piece is decoded whole, so bytes after the line count too if they
come together with it.
-/

namespace StyleGate.CommandLine

def question : String := "Enter the full path to the C# file (.cs) you want to analyze:\n"

/-- Where the answer comes from. -/
inductive StandardInput where
  | closed
  /-- The pieces in which the bytes arrive. After them the input ends or, if it `breaks`, the system
  fails to read on. -/
  | stream (pieces : List ByteArray) (breaks : Bool)

/-- Why there is no line to be had, not even an empty one. -/
inductive InputFault where
  | notOpen
  | unreadable
  | undecodable
  deriving DecidableEq, Repr

namespace StandardInput

/-- The text of what has arrived. A character may be cut short if more is to come. -/
def decodeArrived (bytes : ByteArray) : Except InputFault Text :=
  match Utf8.firstFault? bytes with
  | none => (Utf8.decode bytes).mapError fun _ => .undecodable
  | some fault =>
    if fault.reason == .cutShort then
      (Utf8.decode (bytes.extract 0 fault.start)).mapError fun _ => .undecodable
    else .error .undecodable

/-- Reads on after `seen`, which holds no whole line yet. -/
def lineFrom (breaks : Bool) (seen : ByteArray) : List ByteArray → Except InputFault (Option Text)
  | [] =>
    if breaks then .error .unreadable
    else match Utf8.decode seen with
      | .error _ => .error .undecodable
      | .ok [] => .ok none
      | .ok rest => .ok (some rest)
  | piece :: pieces =>
    match decodeArrived (seen ++ piece) with
    | .error f => .error f
    | .ok text =>
      if text.contains '\n' then .ok (some (text.takeWhile (· != '\n')))
      else lineFrom breaks (seen ++ piece) pieces

/-- The first line, without the line feed that ends it; there is none at the end of the input. -/
def line? : StandardInput → Except InputFault (Option Text)
  | .closed => .error .notOpen
  | .stream pieces breaks => lineFrom breaks .empty pieces

/-- Nobody is asked if there is nowhere to answer. -/
def isOpen : StandardInput → Bool
  | .closed => false
  | .stream _ _ => true

end StandardInput

/-- The text without the double quotes at its two ends. -/
def unquote (s : Text) : Text :=
  ((s.dropWhile (· == '"')).reverse.dropWhile (· == '"')).reverse

/-- The answer is a line without blanks and then without quotes around it; the end of the input is
an empty answer. -/
def answer (input : StandardInput) : Except InputFault Text :=
  input.line?.map fun line => (line.map fun s => unquote (Text.trim s)).getD []

end StyleGate.CommandLine
