import Std.Data.HashSet
import StyleGate.Braces
import StyleGate.Document
import StyleGate.Rule.Basic
import StyleGate.Violation

/-!
Repetition: a block is three consecutive trimmed lines put together. The first block that repeats an
earlier one is reported, and only that one. Blocks under ten characters and blocks of nothing but
braces do not count.
-/

namespace StyleGate.Rule

def shortestBlock : Nat := 10

/-- The number of the first line of the first repeated block, reading from line `n` on with the
blocks `seen` so far. -/
def repeatFrom (seen : Std.HashSet String) (n : Nat) : List Text → Option Nat
  | a :: b :: c :: rest =>
    let block := a ++ (b ++ c)
    if block.length < shortestBlock then repeatFrom seen (n + 1) (b :: c :: rest)
    else if !seen.contains (String.ofList block) then
      repeatFrom (seen.insert (String.ofList block)) (n + 1) (b :: c :: rest)
    else if Braces.isOnly block then repeatFrom seen (n + 1) (b :: c :: rest)
    else some n
  | _ => none

def firstRepeat? (d : Document) : Option Nat := repeatFrom ∅ 1 (d.lines.map Line.trimmed)

def duplicateBlockMessage (line : Nat) : String :=
  "Rule 4 Warning (DRY): Potential repetitive code detected starting at line " ++ toString line ++
    "."

def checkDuplicateBlock (d : Document) : List Violation :=
  match firstRepeat? d with
  | some n => [⟨duplicateBlock.number, duplicateBlockMessage n, some n⟩]
  | none => []

end StyleGate.Rule
