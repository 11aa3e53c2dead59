import StyleGate.Text.Class

/-!
Paths: a number of leading slashes and the parts between slashes. Empty parts and single dots are
dropped, double dots are kept. Two leading slashes stay two; three or more are one.
-/

namespace StyleGate

structure Path where
  /-- Zero for a relative path. -/
  slashes : Nat
  parts : List String
  deriving DecidableEq, Repr

namespace Path

/-- The pieces between slashes; `piece` and `done` are held last first. -/
def piecesFrom (piece : Text) (done : List Text) : Text → List Text
  | [] => (piece.reverse :: done).reverse
  | c :: s =>
    if c == '/' then piecesFrom [] (piece.reverse :: done) s else piecesFrom (c :: piece) done s

def rootSlashes (s : Text) : Nat :=
  match (s.takeWhile (· == '/')).length with
  | 0 => 0
  | 2 => 2
  | _ => 1

def ofText (s : Text) : Path where
  slashes := rootSlashes s
  parts := ((piecesFrom [] [] s).filter fun p => p != [] && p != ['.']).map String.ofList

def ofString (s : String) : Path := ofText s.toList

/-- The path as it is shown: a path with nothing in it is a dot. -/
def toString (p : Path) : String :=
  if p.slashes == 0 && p.parts.isEmpty then "."
  else String.ofList (List.replicate p.slashes '/') ++ "/".intercalate p.parts

/-- The last part, or nothing. -/
def name (p : Path) : String := p.parts.getLast?.getD ""

/-- The path one or more parts further down. -/
def append (p : Path) (parts : List String) : Path := ⟨p.slashes, p.parts ++ parts⟩

end Path

end StyleGate
