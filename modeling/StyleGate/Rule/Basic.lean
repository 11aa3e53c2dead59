/-!
The ten rules of the catalogue, their numbers, names and descriptions.
-/

namespace StyleGate

inductive Rule where
  | methodNaming
  | publicStaticField
  | mediaAttribute
  | duplicateBlock
  | collectionPresence
  | loopPresence
  | magicNumber
  | subroutineSpacing
  | documentation
  | subroutinePresence
  deriving DecidableEq, Repr

namespace Rule

/-- The catalogue, in the order in which the rules run. -/
def all : List Rule :=
  [.methodNaming, .publicStaticField, .mediaAttribute, .duplicateBlock, .collectionPresence,
    .loopPresence, .magicNumber, .subroutineSpacing, .documentation, .subroutinePresence]

def number : Rule → Nat
  | .methodNaming => 1
  | .publicStaticField => 2
  | .mediaAttribute => 3
  | .duplicateBlock => 4
  | .collectionPresence => 5
  | .loopPresence => 6
  | .magicNumber => 7
  | .subroutineSpacing => 8
  | .documentation => 9
  | .subroutinePresence => 10

def name : Rule → String
  | .methodNaming => "method-naming"
  | .publicStaticField => "public-static-field"
  | .mediaAttribute => "media-attribute"
  | .duplicateBlock => "duplicate-block"
  | .collectionPresence => "collection-presence"
  | .loopPresence => "loop-presence"
  | .magicNumber => "magic-number"
  | .subroutineSpacing => "subroutine-spacing"
  | .documentation => "documentation"
  | .subroutinePresence => "subroutine-presence"

def description : Rule → String
  | .methodNaming => "Method names follow PascalCase conventions"
  | .publicStaticField => "No public static variables (const/readonly excepted)"
  | .mediaAttribute => "Media attributes (images, sounds, videos...) are static readonly"
  | .duplicateBlock => "No repeated blocks of 3+ lines (DRY)"
  | .collectionPresence => "At least one Array or List"
  | .loopPresence => "At least one loop (for, foreach, while, do)"
  | .magicNumber => "No useless literals (magic numbers)"
  | .subroutineSpacing => "Every subroutine has 2 empty lines after it"
  | .documentation => "Classes and methods are documented"
  | .subroutinePresence => "At least one function/subroutine"

def ofNumber? (n : Int) : Option Rule := all.find? fun r => (r.number : Int) == n

/-- How many rules there are. -/
def count : Nat := all.length

end Rule

end StyleGate
