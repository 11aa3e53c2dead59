import StyleGate.Rule.AfterBody
import StyleGate.Rule.EachLine
import StyleGate.Rule.LineAbove
import StyleGate.Rule.Repetition
import StyleGate.Rule.WholeText

/-!
Analysis: the chosen rules run over one document in ascending order of their numbers, each whatever
the others found, and their violations are put together. A rule that is chosen twice runs twice.
-/

namespace StyleGate

def Rule.check : Rule → Document → List Violation
  | .methodNaming => eachLine .methodNaming methodNamingAt
  | .publicStaticField => eachLine .publicStaticField publicStaticFieldAt
  | .mediaAttribute => eachLine .mediaAttribute mediaAttributeAt
  | .duplicateBlock => checkDuplicateBlock
  | .collectionPresence => checkCollectionPresence
  | .loopPresence => checkLoopPresence
  | .magicNumber => eachLine .magicNumber magicNumberAt
  | .subroutineSpacing => checkSubroutineSpacing
  | .documentation => checkDocumentation
  | .subroutinePresence => checkSubroutinePresence

/-- The order in which chosen rules run. -/
def Rule.inOrder (rules : List Rule) : List Rule :=
  rules.mergeSort fun a b => a.number ≤ b.number

def analyzeWith (rules : List Rule) (d : Document) : Report :=
  ⟨(Rule.inOrder rules).flatMap (Rule.check · d)⟩

def analyze (d : Document) : Report := analyzeWith Rule.all d

def analyzeText (text : Text) : Report := analyze (Document.ofText text)

end StyleGate
