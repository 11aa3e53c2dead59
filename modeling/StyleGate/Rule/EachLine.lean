import StyleGate.Comment
import StyleGate.Declaration
import StyleGate.Document
import StyleGate.Rule.Basic
import StyleGate.Text.Lowercase
import StyleGate.Usage
import StyleGate.Violation

/-!
Rules that judge every line by itself: method names, public static fields, media attributes and
magic numbers. Each gives at most one message per line.
-/

namespace StyleGate.Rule

/-- One violation for every line on which `judge` finds something to say. -/
def eachLine (rule : Rule) (judge : Line → Option String) (d : Document) : List Violation :=
  d.lines.filterMap fun l => (judge l).map fun message => ⟨rule.number, message, some l.number⟩

/-- The name of a method other than the entry point that starts with a lowercase letter. -/
def misnamed? (s : Text) : Option Text :=
  if Declaration.isSignature s then
    match Declaration.subroutineName? s with
    | some (c :: cs) =>
      if !Declaration.isEntryPoint (c :: cs) && Text.isLowercase c then some (c :: cs) else none
    | _ => none
  else none

def methodNamingMessage (name : Text) (line : Nat) : String :=
  "Rule 1 Violation: Method '" ++ String.ofList name ++ "' on line " ++ toString line ++
    " does not follow PascalCase conventions."

def methodNamingAt (l : Line) : Option String :=
  (misnamed? l.raw).map (methodNamingMessage · l.number)

/-- A mention of `public static` without `const`, `readonly` or a parameter list is a field. -/
def exposesField (s : Text) : Bool :=
  !Comment.opens s && Usage.publicStatic s && !Usage.immutableOrCallable s

def publicStaticFieldAt (l : Line) : Option String :=
  if exposesField l.trimmed then
    some ("Rule 2 Violation: Public static variable found on line " ++ toString l.number ++ ".")
  else none

def looseMedia (s : Text) : Bool :=
  Usage.mediaType s && Usage.statement s && !Usage.staticReadonly s

def mediaAttributeAt (l : Line) : Option String :=
  if looseMedia l.trimmed then
    some ("Rule 3 Violation: Media attribute on line " ++ toString l.number ++
      " must be 'static readonly'.")
  else none

/-- The first unexplained number of a line that assigns or compares. -/
def unexplained? (s : Text) : Option Text :=
  if Comment.opens s || Declaration.isConst s || !Usage.assignmentOrComparison s then none
  else Usage.magicLiteral? s

def magicNumberMessage (literal : Text) (line : Nat) : String :=
  "Rule 7 Violation: Potential magic number '" ++ String.ofList literal ++ "' found on line " ++
    toString line ++ ". Consider using a variable or const."

def magicNumberAt (l : Line) : Option String :=
  (unexplained? l.trimmed).map (magicNumberMessage · l.number)

end StyleGate.Rule
