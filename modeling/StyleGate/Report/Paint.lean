/-!
Terminal colours.
-/

namespace StyleGate

inductive Colour where
  | red
  | green
  | blue
  deriving DecidableEq, Repr

namespace Colour

/-- The escape sequence that switches the colour on. -/
def start : Colour → String
  | .red => "\x1b[0;31m"
  | .green => "\x1b[0;32m"
  | .blue => "\x1b[0;34m"

/-- The escape sequence that switches every colour off. -/
def stop : String := "\x1b[0m"

/-- The text in this colour, if colours are on. -/
def paint (colour : Colour) (on : Bool) (text : String) : String :=
  if on then colour.start ++ text ++ stop else text

end Colour

end StyleGate
