import StyleGate.Text.Class

/-!
Curly braces: their counts on a line, and the line on which a body that opens is balanced again.
Only the counts of whole lines enter the depth, so `} else {` leaves it as it was.
-/

namespace StyleGate.Braces

def opening (s : Text) : Nat := s.count '{'

def closing (s : Text) : Nat := s.count '}'

/-- Braces and nothing else, one final line feed aside. -/
def isOnly (s : Text) : Bool :=
  let body := if s.getLast? == some '\n' then s.dropLast else s
  !body.isEmpty && body.all fun c => c == '{' || c == '}'

/-- Where a body closes: the position of its last line, and the lines after it. -/
structure Close where
  position : Int
  after : List Text
  deriving DecidableEq, Repr

/-- Reads lines from `position` on, with the depth and whether a brace has opened so far, up to the
line that brings the depth back to zero. -/
def closeFrom (position depth : Int) (inside : Bool) : List Text → Option Close
  | [] => none
  | l :: ls =>
    let inside := inside || 0 < opening l
    let depth := depth + (opening l - closing l)
    if inside && depth == 0 then some ⟨position, ls⟩ else closeFrom (position + 1) depth inside ls

/-- The lines read from `start` on. A negative start counts back from the end; from there the lines
run to the end and then all over again from the front. -/
def linesFrom (lines : List Text) (start : Int) : List Text :=
  if 0 ≤ start then lines.drop start.toNat
  else lines.drop (lines.length + start).toNat ++ lines

/-- A start before the first line. -/
inductive BodyError where
  | startOutOfRange
  deriving DecidableEq, Repr

def BodyError.message : BodyError → String
  | .startOutOfRange => "list index out of range"

/-- Where the body that opens at or after `start` closes, if it does. -/
def bodyEnd (lines : List Text) (start : Int) : Except BodyError (Option Int) :=
  if start < -(lines.length : Int) then .error .startOutOfRange
  else .ok ((closeFrom start 0 false (linesFrom lines start)).map Close.position)

end StyleGate.Braces
