import StyleGate.Declaration
import StyleGate.Document
import StyleGate.Rule.Basic
import StyleGate.Usage
import StyleGate.Violation

/-!
Rules about the whole text: it has a collection, a loop and a subroutine. Their violations name no
line.
-/

namespace StyleGate.Rule

def require (present : Bool) (rule : Rule) (message : String) : List Violation :=
  if present then [] else [⟨rule.number, message, none⟩]

def checkCollectionPresence (d : Document) : List Violation :=
  require (Usage.collection d.text) collectionPresence
    "Rule 5 Violation: No Array or List found in the code."

def checkLoopPresence (d : Document) : List Violation :=
  require (Usage.loop d.text) loopPresence
    "Rule 6 Violation: No loop (for, foreach, while, do) found."

def checkSubroutinePresence (d : Document) : List Violation :=
  require (d.lines.any fun l => Declaration.isSignature l.raw) subroutinePresence
    "Rule 10 Violation: No functions/subroutines found in the file."

end StyleGate.Rule
