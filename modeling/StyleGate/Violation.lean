/-!
Violations and the report that collects them.
-/

namespace StyleGate

/-- One failure of one numbered rule; rules about the whole text name no line. -/
structure Violation where
  rule : Int
  message : String
  line : Option Int := none
  deriving DecidableEq, Repr

/-- The violations of one run, in the order in which the rules ran and, within a rule, in line
order. An empty report means that every requirement is met. -/
structure Report where
  violations : List Violation
  deriving DecidableEq, Repr

namespace Report

def passed (r : Report) : Bool := r.violations.isEmpty

def messages (r : Report) : List String := r.violations.map Violation.message

def forRule (r : Report) (rule : Int) : List Violation :=
  r.violations.filter fun v => v.rule == rule

end Report

end StyleGate
