import StyleGate.Text.Blank
import StyleGate.Text.Word

/-!
Searching text: for a fixed part, and for a word run with a given look and continuation. Both read
the text once from the front.
-/

namespace StyleGate.Text

/-- Does `part` stand somewhere in the text? -/
def hasPart (part : Text) : Text → Bool
  | [] => part.isEmpty
  | c :: s => part.isPrefixOf (c :: s) || hasPart part s

/-- Is the next character that is not blank an opening parenthesis? -/
def opensParen (s : Text) : Bool := (trimStart s).head? == some '('

/-- `findRun?` in the middle of a run: `seen` is what was read of it, last character first. -/
def findRunFrom (accepts : Text → Text → Bool) (seen : Text) : Text → Option Text
  | [] => if !seen.isEmpty && accepts seen.reverse [] then some seen.reverse else none
  | c :: s =>
    if isWord c then findRunFrom accepts (c :: seen) s
    else if !seen.isEmpty && accepts seen.reverse (c :: s) then some seen.reverse
    else findRunFrom accepts [] s

/-- The first maximal word run that is accepted together with the text after it. -/
def findRun? (accepts : Text → Text → Bool) (s : Text) : Option Text := findRunFrom accepts [] s

/-- The line up to, not including, its first line feed. -/
def firstLine (s : Text) : Text := s.takeWhile (· != '\n')

end StyleGate.Text
