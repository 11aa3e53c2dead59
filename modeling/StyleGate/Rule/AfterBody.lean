import StyleGate.Braces
import StyleGate.Declaration
import StyleGate.Document
import StyleGate.Rule.Basic
import StyleGate.Violation

/-!
Spacing: two empty lines follow every subroutine. A body that closes right before the brace of its
enclosing scope is exempt, and so are a body that never closes, one that closes on the last line,
and one that a single blank line separates from the end.
-/

namespace StyleGate.Rule

/-- Gathers what `judge` finds at each line, given its index and the lines from it on. `found` is
held last first. -/
def sweep {α : Type} (judge : Nat → List Text → Option α) (index : Nat) (found : List α) :
    List Text → List α
  | [] => found.reverse
  | l :: ls =>
    sweep judge (index + 1)
      (match judge index (l :: ls) with
        | some a => a :: found
        | none => found) ls

/-- Where the body of the signature at the front of `lines` closes; the outer `none` means that
there is no signature, the inner one that the body never closes. -/
def bodyAt (index : Nat) : List Text → Option (Option Braces.Close)
  | [] => none
  | l :: ls =>
    if Declaration.isSignature l then some (Braces.closeFrom index 0 false (l :: ls)) else none

/-- The lines after a body leave too little space. -/
def crowded : List Text → Bool
  | [] => false
  | [a] => Text.trim a != "\x7d".toList && Text.trim a != []
  | a :: b :: _ =>
    Text.trim a != "\x7d".toList && !(Text.trim a == [] && Text.trim b == [])

def subroutineSpacingAt (index : Nat) (lines : List Text) : Option Violation :=
  match bodyAt index lines with
  | some (some close) =>
    if crowded close.after then
      some ⟨subroutineSpacing.number,
        "Rule 8 Violation: Method ending at line " ++ toString (close.position + 1) ++
          " does not have 2 empty lines after it.",
        some (close.position + 1)⟩
    else none
  | _ => none

def checkSubroutineSpacing (d : Document) : List Violation :=
  sweep subroutineSpacingAt 0 [] d.rawLines

/-- The numbers of the lines whose signatures have a body that never closes. -/
def unclosedBodies (d : Document) : List Nat :=
  sweep (fun index lines => if bodyAt index lines == some none then some (index + 1) else none) 0 []
    d.rawLines

end StyleGate.Rule
