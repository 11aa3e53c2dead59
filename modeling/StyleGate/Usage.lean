import StyleGate.Text.Digit
import StyleGate.Text.Search

/-!
What a line or a whole text makes use of: modifiers, media types, literals, collections and loops.
-/

namespace StyleGate.Usage

open Text

def publicStatic (s : Text) : Bool := hasPart "public static".toList s

def staticReadonly (s : Text) : Bool := hasPart "static readonly".toList s

/-- A constant, a read-only field or anything with a parameter list. -/
def immutableOrCallable (s : Text) : Bool :=
  hasPart "const".toList s || hasPart "readonly".toList s || hasPart "(".toList s

def mediaTypes : List Text :=
  ["Bitmap".toList, "Image".toList, "SoundPlayer".toList, "Video".toList, "Animation".toList,
    "Texture".toList]

def mediaType (s : Text) : Bool := mediaTypes.any (hasPart · s)

/-- The line ends with a semicolon. -/
def statement (s : Text) : Bool := ";".toList.isSuffixOf s

/-- Every assignment and comparison operator holds one of these three characters. -/
def assignmentOrComparison (s : Text) : Bool := s.any fun c => c == '=' || c == '>' || c == '<'

/-- Zero and one explain themselves. -/
def exemptLiterals : List Text := ["0".toList, "1".toList]

/-- The first word run that is a whole number other than zero and one. -/
def magicLiteral? (s : Text) : Option Text :=
  findRun? (fun w _ => w.all isDigit && !exemptLiterals.contains w) s

def collectionMarks : List Text := ["[]".toList, "List<".toList, "Array".toList]

def collection (s : Text) : Bool := collectionMarks.any (hasPart · s)

def loopKeywords : List Text := ["for".toList, "foreach".toList, "while".toList, "do".toList]

/-- A loop keyword with its parenthesis, which may stand on a later line. -/
def loop (s : Text) : Bool :=
  (findRun? (fun w rest => loopKeywords.contains w && opensParen rest) s).isSome

end StyleGate.Usage
