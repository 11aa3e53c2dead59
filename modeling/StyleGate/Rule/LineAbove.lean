import StyleGate.Comment
import StyleGate.Declaration
import StyleGate.Document
import StyleGate.Rule.Basic
import StyleGate.Violation

/-!
Documentation: a comment stands directly above every class and method. Only the line immediately
above counts, so a blank line in between does not do.
-/

namespace StyleGate.Rule

/-- The trimmed line declares a class or a method. -/
def declares (s : Text) : Bool := Declaration.isClass s || Declaration.isSignature s

/-- A declaration with no documentation on the line above it. -/
def undocumented (above : Option Line) (l : Line) : Bool :=
  declares l.trimmed && !above.any fun a => Comment.documents a.trimmed

def documentationAt (above : Option Line) (l : Line) : Option Violation :=
  if undocumented above l then
    some ⟨documentation.number,
      "Rule 9 Violation: Undocumented Class or Method found on line " ++ toString l.number ++ ".",
      some l.number⟩
  else none

/-- Every line with the line above it. -/
def withAbove (lines : List Line) : List (Option Line × Line) :=
  (none :: lines.map some).zip lines

def checkDocumentation (d : Document) : List Violation :=
  (withAbove d.lines).filterMap fun (above, l) => documentationAt above l

end StyleGate.Rule
