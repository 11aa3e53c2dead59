import StyleGate.Decimal.Reading
import StyleGate.Yaml.Timestamp

/-!
Tags: the kinds of nodes, and the kind that a plain scalar has by its look. The looks are tried in a
fixed order, and what looks like nothing else is text.
-/

namespace StyleGate.Yaml

inductive Tag where
  | null
  | bool
  | int
  | float
  | binary
  | timestamp
  | orderedMap
  | pairs
  | set
  | str
  | seq
  | map
  /-- The key under which other mappings are merged in. -/
  | merge
  /-- The key of a default value. -/
  | default
  /-- A tag that means nothing here. -/
  | other
  deriving DecidableEq, Repr

namespace Tag

/-- What the names of the common tags start with. -/
def common : Text := "tag:yaml.org,2002:".toList

def ofCommonName (name : String) : Tag :=
  match name with
  | "null" => .null
  | "bool" => .bool
  | "int" => .int
  | "float" => .float
  | "binary" => .binary
  | "timestamp" => .timestamp
  | "omap" => .orderedMap
  | "pairs" => .pairs
  | "set" => .set
  | "str" => .str
  | "seq" => .seq
  | "map" => .map
  | "merge" => .merge
  | "value" => .default
  | _ => .other

def ofName (s : Text) : Tag :=
  if common.isPrefixOf s then ofCommonName (String.ofList (s.drop common.length)) else .other

/-- The words of one spelling in lower case, capitalised and in upper case. -/
def inThreeCases (word : String) : List Text :=
  let s := word.toList
  [s, s.take 1 |>.map Char.toUpper |>.append (s.drop 1), s.map Char.toUpper]

def truthWords : List Text := ["yes", "no", "true", "false", "on", "off"].flatMap inThreeCases

def nullWords : List Text := [] :: ['~'] :: inThreeCases "null"

def isDigitOr_ (c : Char) : Bool := c.isDigit || c == '_'

/-- One or more groups of a colon and a number below sixty, then an end. -/
def sixties (final : Text → Bool) : Text → Bool
  | ':' :: a :: b :: s =>
    a.isDigit && (final (b :: s) || sixties final (b :: s)) ||
      ('0' ≤ a && a ≤ '5' && b.isDigit && (final s || sixties final s))
  | [':', a] => a.isDigit && final []
  | _ => false

def isNonempty (p : Char → Bool) (s : Text) : Bool := !s.isEmpty && s.all p

/-- A whole number without sign: binary, octal, decimal, hexadecimal or in base sixty. -/
def looksWhole : Text → Bool
  | ['0'] => true
  | '0' :: 'b' :: s => isNonempty (fun c => c == '0' || c == '1' || c == '_') s
  | '0' :: 'x' :: s =>
    isNonempty (fun c => c.isDigit || ('a' ≤ c && c ≤ 'f') || ('A' ≤ c && c ≤ 'F') || c == '_') s
  | '0' :: s => isNonempty (fun c => ('0' ≤ c && c ≤ '7') || c == '_') s
  | c :: s =>
    c.isDigit && (s.all isDigitOr_ || sixties List.isEmpty (s.dropWhile isDigitOr_))
  | [] => false

def looksInt (s : Text) : Bool := looksWhole (Decimal.splitSign s).2

/-- Nothing, or an exponent with a sign. -/
def looksExponent : Text → Bool
  | [] => true
  | e :: sign :: s =>
    (e == 'e' || e == 'E') && (sign == '-' || sign == '+') && isNonempty Char.isDigit s
  | _ => false

/-- A point and digits. -/
def looksFraction : Text → Bool
  | '.' :: s => s.all isDigitOr_
  | _ => false

/-- A number with a point, without sign. -/
def looksDecimal : Text → Bool
  | c :: s =>
    c.isDigit &&
      match s.dropWhile isDigitOr_ with
      | '.' :: r => looksExponent (r.dropWhile isDigitOr_)
      | r => sixties looksFraction r
  | [] => false

/-- Digits after a bare point. -/
def looksBareFraction : Text → Bool
  | '.' :: c :: s => c.isDigit && looksExponent (s.dropWhile isDigitOr_)
  | _ => false

def looksFloat (s : Text) : Bool :=
  let unsigned := (Decimal.splitSign s).2
  looksDecimal unsigned || looksBareFraction s ||
    ["inf".toList, "Inf".toList, "INF".toList].any (fun w => unsigned == '.' :: w) ||
    ["nan".toList, "NaN".toList, "NAN".toList].any (fun w => s == '.' :: w)

/-- The kind that a scalar has by its look; a final line feed is overlooked. -/
def ofLook (text : Text) : Tag :=
  if text == ['\n'] then .str
  else
    let s := if text.getLast? == some '\n' then text.dropLast else text
    if truthWords.contains s then .bool
    else if looksFloat s then .float
    else if looksInt s then .int
    else if s == "<<".toList then .merge
    else if nullWords.contains s then .null
    else if Timestamp.isPlain s then .timestamp
    else if s == ['='] then .default
    else if s == ['!'] || s == ['&'] || s == ['*'] then .other
    else .str

end Tag

end StyleGate.Yaml
