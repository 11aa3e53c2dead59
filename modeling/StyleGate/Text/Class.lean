/-!
Text is a list of characters. A character class is given by its edges: the code points, in ascending
order, at which membership changes, starting outside the class.
-/

namespace StyleGate

/-- Text as its characters, in order. -/
abbrev Text := List Char

namespace Text

/-- Membership after crossing the edges that are not above `n`. -/
def crossed (inside : Bool) : List Nat → Nat → Bool
  | [], _ => inside
  | e :: es, n => if n < e then inside else crossed (!inside) es n

/-- Does the class with these edges hold the code point `n`? -/
def within (edges : List Nat) (n : Nat) : Bool := crossed false edges n

/-- The greatest edge that is not above `n`, or `found` if there is none. -/
def lastEdge : List Nat → Nat → Nat → Nat
  | [], found, _ => found
  | e :: es, found, n => if n < e then found else lastEdge es e n

end Text

end StyleGate
