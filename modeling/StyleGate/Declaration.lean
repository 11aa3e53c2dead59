import StyleGate.Text.Search

/-!
Declarations on one line: subroutine signatures, fields and classes. Nothing parses the language; a
line is recognised by its shape alone, so a signature split over two lines is not one.

A signature is an access modifier, perhaps `static`, a type, a name and a parenthesis that closes
on the same line. A field is an access modifier, any of `const`, `static` and `readonly`, a type, a
name, perhaps an initial value, and a semicolon. Blanks, type characters before them and the marks
that end a name exclude each other, so each part is the longest stretch of its class.
-/

namespace StyleGate.Declaration

open Text

def accessModifiers : List Text :=
  ["public".toList, "private".toList, "protected".toList, "internal".toList]

def fieldModifiers : List Text := ["const".toList, "static".toList, "readonly".toList]

/-- Characters of a type: word characters and the brackets of generics and arrays. -/
def isTypeChar (c : Char) : Bool := isWord c || c == '<' || c == '>' || c == '[' || c == ']'

/-- What follows `keyword` and at least one blank at the front of the text. -/
def afterKeyword? (keyword s : Text) : Option Text :=
  if keyword.isPrefixOf s then
    match s.drop keyword.length with
    | [] => none
    | c :: r => if isBlank c then some (trimStart r) else none
  else none

/-- What follows an access modifier that only blanks precede. -/
def afterAccess? (s : Text) : Option Text :=
  accessModifiers.findSome? (afterKeyword? · (trimStart s))

/-- What follows a type, blanks and a name. -/
def afterTypedName? (s : Text) : Option Text :=
  let afterType := s.dropWhile isTypeChar
  let afterGap := trimStart afterType
  let afterName := afterGap.dropWhile isWord
  if (s.takeWhile isTypeChar).isEmpty || (afterType.takeWhile isBlank).isEmpty ||
      (afterGap.takeWhile isWord).isEmpty then none
  else some afterName

/-- A parameter list opens after blanks and closes before the line does. -/
def opensParameters (s : Text) : Bool :=
  match trimStart s with
  | '(' :: r => (firstLine r).contains ')'
  | _ => false

/-- The field ends here, or after an initial value on the same line. -/
def endsField (s : Text) : Bool :=
  s.head? == some ';' ||
    match trimStart s with
    | '=' :: r => (firstLine r).contains ';'
    | _ => false

def headsSubroutine (s : Text) : Bool := (afterTypedName? s).any opensParameters

def headsField (s : Text) : Bool := (afterTypedName? s).any endsField

def isSignature (s : Text) : Bool :=
  (afterAccess? s).any fun r =>
    headsSubroutine r || (afterKeyword? "static".toList r).any headsSubroutine

/-- What follows one modifier of a field. -/
def afterFieldModifier? (s : Text) : Option Text := fieldModifiers.findSome? (afterKeyword? · s)

theorem length_trimStart_le (s : Text) : (trimStart s).length ≤ s.length :=
  (List.dropWhile_sublist _).length_le

theorem length_lt_of_afterKeyword? {k s r : Text} (h : afterKeyword? k s = some r) :
    r.length < s.length := by
  unfold afterKeyword? at h
  split at h
  · split at h
    · simp at h
    · rename_i c t ht
      split at h
      · obtain rfl : trimStart t = r := by simpa using h
        have hlen := congrArg List.length ht
        have hle := length_trimStart_le t
        simp only [List.length_drop, List.length_cons] at hlen
        omega
      · simp at h
  · simp at h

theorem length_lt_of_afterFieldModifier? {s r : Text} (h : afterFieldModifier? s = some r) :
    r.length < s.length := by
  obtain ⟨k, -, hk⟩ := List.exists_of_findSome?_eq_some h
  exact length_lt_of_afterKeyword? hk

/-- A field after its access modifier: it may start here or after one more modifier. -/
def fieldAfterModifiers (s : Text) : Bool :=
  headsField s ||
    match h : afterFieldModifier? s with
    | none => false
    | some r =>
      have := length_lt_of_afterFieldModifier? h
      fieldAfterModifiers r
termination_by s.length

def isField (s : Text) : Bool := (afterAccess? s).any fieldAfterModifiers

/-- A name here that a parenthesis follows. -/
def nameAtFront? (s : Text) : Option Text :=
  let name := s.takeWhile isWord
  if name.isEmpty || !opensParen (s.dropWhile isWord) then none else some name

/-- The first word that a blank precedes and a parenthesis follows. -/
def subroutineName? : Text → Option Text
  | [] => none
  | c :: s =>
    if isBlank c then
      match nameAtFront? s with
      | some name => some name
      | none => subroutineName? s
    else subroutineName? s

def isEntryPoint (name : Text) : Bool := name == "Main".toList

def isClass (s : Text) : Bool := (findRun? (fun w _ => w == "class".toList) s).isSome

def isConst (s : Text) : Bool := hasPart "const ".toList s

end StyleGate.Declaration
