import StyleGate.Report.Paint
import StyleGate.Rule.Basic
import StyleGate.Violation

/-!
The printed report, one line for each violation or one line of success, and the printed catalogue.
-/

namespace StyleGate

namespace Report

def header : List String := ["--- Analysis Report ---", ""]

def success : String := "All requirements are met!"

def failure (v : Violation) : String := "- [Failed] " ++ v.message

def render (r : Report) (colour : Bool := true) : List String :=
  if r.passed then header ++ [Colour.green.paint colour success]
  else header ++ r.violations.map fun v => Colour.red.paint colour (failure v)

/-- Zero for an empty report and one otherwise. -/
def exitStatus (r : Report) : Nat := if r.passed then 0 else 1

end Report

namespace Rule

/-- The number in brackets, two characters wide. -/
def tag (r : Rule) : String :=
  "[" ++ (if r.number < 10 then " " else "") ++ toString r.number ++ "]"

def describe (colour : Bool) (r : Rule) : List String :=
  ["  " ++ Colour.blue.paint colour r.tag ++ " " ++ r.name, "       " ++ r.description]

/-- The lines that show these rules, in the order given. -/
def catalogue (rules : List Rule) (colour : Bool := true) : List String :=
  "=== sharpcheck rules ===" :: rules.flatMap (describe colour)

end Rule

end StyleGate
