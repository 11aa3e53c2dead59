import Mathlib.Tactic.Common
import StyleGate.Text.JsonString

/-!
# Reading JSON

A reader of JSON that is as strict as the format: no character below the space stands in a string,
no number starts with a needless zero, and nothing but blanks follows the value. Inside a string
each character or escape is one unit, and two units of a surrogate pair are one character. What is
written as a string is read back as the same text.
-/

namespace StyleGate

/-- A JSON value. A number is kept as it is spelled, and an object keeps its members in order. -/
inductive Json where
  | null
  | bool (b : Bool)
  | number (spelling : Text)
  | string (s : String)
  | array (items : List Json)
  | object (members : List (String × Json))

namespace Json

open Text

/-- The member of an object with this name, of several the last. -/
def field? (name : String) : Json → Option Json
  | object members => members.reverse.lookup name
  | _ => none

/-! ## Strings -/

/-- The value of a hexadecimal digit. -/
def hexDigit? (c : Char) : Option Nat :=
  if '0' ≤ c ∧ c ≤ '9' then some (c.toNat - '0'.toNat)
  else if 'a' ≤ c ∧ c ≤ 'f' then some (c.toNat - 'a'.toNat + 10)
  else if 'A' ≤ c ∧ c ≤ 'F' then some (c.toNat - 'A'.toNat + 10)
  else none

/-- The number of four hexadecimal digits. -/
def code? (a b c d : Char) : Option Nat := do
  return (((← hexDigit? a) * 16 + (← hexDigit? b)) * 16 + (← hexDigit? c)) * 16 + (← hexDigit? d)

/-- What a backslash and one character stand for. -/
def shortEscape? : Char → Option Nat
  | '"' => some 0x22
  | '\\' => some 0x5c
  | '/' => some 0x2f
  | 'b' => some 0x08
  | 'f' => some 0x0c
  | 'n' => some 0x0a
  | 'r' => some 0x0d
  | 't' => some 0x09
  | _ => none

/-- The units of a string up to its closing quote, and what follows it. -/
def units? : Text → Option (List Nat × Text)
  | [] => none
  | '"' :: s => some ([], s)
  | '\\' :: 'u' :: a :: b :: c :: d :: s => do
    let n ← code? a b c d
    let (ns, r) ← units? s
    return (n :: ns, r)
  | '\\' :: c :: s => do
    let n ← shortEscape? c
    let (ns, r) ← units? s
    return (n :: ns, r)
  | c :: s =>
    if c.toNat < 0x20 then none
    else do
      let (ns, r) ← units? s
      return (c.toNat :: ns, r)

/-- The first of the two units of a character beyond the basic plane. -/
def isHigh (n : Nat) : Bool := 0xd800 ≤ n && n < 0xdc00

def isLow (n : Nat) : Bool := 0xdc00 ≤ n && n < 0xe000

/-- The text of these units. A surrogate without its partner is no character. -/
def ofUnits? : List Nat → Option Text
  | [] => some []
  | [n] => if isHigh n || isLow n then none else some [Char.ofNat n]
  | n :: m :: ns =>
    if isHigh n then
      if isLow m then
        (ofUnits? ns).map (Char.ofNat (0x10000 + (n - 0xd800) * 0x400 + (m - 0xdc00)) :: ·)
      else none
    else if isLow n then none
    else (ofUnits? (m :: ns)).map (Char.ofNat n :: ·)

/-- A string whose opening quote has been read. -/
def string? (s : Text) : Option (String × Text) := do
  let (ns, r) ← units? s
  let t ← ofUnits? ns
  return (String.ofList t, r)

/-! ## Values -/

def isSpace (c : Char) : Bool := c == ' ' || c == '\t' || c == '\n' || c == '\r'

def skip (s : Text) : Text := s.dropWhile isSpace

/-- Digits at the front, at least one. -/
def digits? (s : Text) : Option (Text × Text) :=
  if (s.takeWhile Char.isDigit).isEmpty then none
  else some (s.takeWhile Char.isDigit, s.dropWhile Char.isDigit)

def whole? : Text → Option (Text × Text)
  | '0' :: s => some (['0'], s)
  | s => digits? s

def fraction? : Text → Option (Text × Text)
  | '.' :: s => (digits? s).map fun (ds, r) => ('.' :: ds, r)
  | s => some ([], s)

def exponent? : Text → Option (Text × Text)
  | [] => some ([], [])
  | c :: s =>
    if c == 'e' || c == 'E' then
      let (sign, s) := s.span fun d => d == '+' || d == '-'
      if 1 < sign.length then none else (digits? s).map fun (ds, r) => (c :: sign ++ ds, r)
    else some ([], c :: s)

def number? (s : Text) : Option (Json × Text) := do
  let (sign, s) := if s.head? == some '-' then (['-'], s.drop 1) else ([], s)
  let (ds, s) ← whole? s
  let (fs, s) ← fraction? s
  let (es, s) ← exponent? s
  return (.number (sign ++ ds ++ fs ++ es), s)

def literals : List (Text × Json) :=
  [("null".toList, .null), ("true".toList, .bool true), ("false".toList, .bool false)]

def literal? (s : Text) : Option (Json × Text) :=
  literals.findSome? fun (word, v) =>
    if word.isPrefixOf s then some (v, s.drop word.length) else none

/-- At least one thing and at most `count` of them, with commas between them and `close` at the
end. -/
def list? {α : Type} (read : Text → Option (α × Text)) (close : Char) :
    Nat → Text → Option (List α × Text)
  | 0, _ => none
  | count + 1, s => do
    let (a, s) ← read (skip s)
    match skip s with
    | [] => none
    | c :: s =>
      if c == ',' then do
        let (as, r) ← list? read close count s
        return (a :: as, r)
      else if c == close then some ([a], s)
      else none

/-- A name, a colon and a value. -/
def member? (read : Text → Option (Json × Text)) : Text → Option ((String × Json) × Text)
  | '"' :: s => do
    let (name, s) ← string? s
    match skip s with
    | ':' :: s => do
      let (v, r) ← read (skip s)
      return ((name, v), r)
    | _ => none
  | _ => none

/-- A value with collections inside one another at most `depth` deep. -/
def value? : Nat → Text → Option (Json × Text)
  | 0, _ => none
  | depth + 1, s =>
    match s with
    | '"' :: s => (string? s).map fun (t, r) => (.string t, r)
    | '[' :: s =>
      match skip s with
      | ']' :: r => some (.array [], r)
      | s => (list? (value? depth) ']' s.length s).map fun (items, r) => (.array items, r)
    | '{' :: s =>
      match skip s with
      | '}' :: r => some (.object [], r)
      | s =>
        (list? (member? (value? depth)) '}' s.length s).map fun (members, r) => (.object members, r)
    | s => (literal? s).or (number? s)

/-- The value that a text is, blanks around it aside. -/
def parse? (s : Text) : Option Json := do
  let (v, r) ← value? (s.length + 1) (skip s)
  if (skip r).isEmpty then some v else none

example : parse? " [-0.5e+3, \"\\ud83d\\ude00\\n\", [], null] ".toList =
    some (.array [.number "-0.5e+3".toList, .string "😀\n", .array [], .null]) := rfl

-- A needless zero, a comma before the end and a line break inside a string.
example : ["01", "[1,]", "\"\n\""].map (fun s => (parse? s.toList).isSome) =
    [false, false, false] := rfl

/-! ## What is written is read back -/

/-- The number of a control character is two zeros and two more digits. -/
lemma hex_of_control : ∀ n < 0x20, ∃ a ∈ "01".toList, ∃ b ∈ "0123456789abcdef".toList,
    hex 4 n = ['0', '0', a, b] ∧ code? '0' '0' a b = some n := by
  have all : (List.range 0x20).all (fun n => "01".toList.any fun a =>
      "0123456789abcdef".toList.any fun b =>
        hex 4 n == ['0', '0', a, b] && code? '0' '0' a b == some n) = true := by
    decide +kernel
  simp only [List.all_eq_true, List.any_eq_true, List.mem_range, Bool.and_eq_true,
    beq_iff_eq] at all
  exact all

/-- Seven characters are written with a letter. -/
lemma jsonEscape_of_lettered : ∀ c ∈ "\"\\\n\r\t\x08\x0c".toList, ∃ d ∈ "\"\\nrtbf".toList,
    jsonEscape c = ['\\', d] ∧ shortEscape? d = some c.toNat := by
  have all : "\"\\\n\r\t\x08\x0c".toList.all (fun c => "\"\\nrtbf".toList.any fun d =>
      jsonEscape c == ['\\', d] && shortEscape? d == some c.toNat) = true := by
    decide +kernel
  simp only [List.all_eq_true, List.any_eq_true, Bool.and_eq_true, beq_iff_eq] at all
  exact all

/-- A character is written with a letter, with its number, or as itself. -/
lemma jsonEscape_cases (c : Char) :
    (∃ d ∈ "\"\\nrtbf".toList, jsonEscape c = ['\\', d] ∧ shortEscape? d = some c.toNat) ∨
    (∃ a ∈ "01".toList, ∃ b ∈ "0123456789abcdef".toList,
      jsonEscape c = ['\\', 'u', '0', '0', a, b] ∧ code? '0' '0' a b = some c.toNat) ∨
    (jsonEscape c = [c] ∧ c ≠ '"' ∧ c ≠ '\\' ∧ ¬ c.toNat < 0x20) := by
  by_cases lettered : c ∈ "\"\\\n\r\t\x08\x0c".toList
  · exact Or.inl (jsonEscape_of_lettered c lettered)
  · have others : ¬ c = '"' ∧ ¬ c = '\\' ∧ ¬ c = '\n' ∧ ¬ c = '\r' ∧ ¬ c = '\t' ∧ ¬ c = '\x08' ∧
        ¬ c = '\x0c' := by
      simpa using lettered
    obtain ⟨quote, slash, feed, ret, tab, back, form⟩ := others
    by_cases control : c.toNat < 0x20
    · obtain ⟨a, ha, b, hb, digits, code⟩ := hex_of_control c.toNat control
      refine Or.inr (Or.inl ⟨a, ha, b, hb, ?_, code⟩)
      simp [jsonEscape, quote, slash, feed, ret, tab, back, form, control, digits]
    · refine Or.inr (Or.inr ⟨?_, quote, slash, control⟩)
      simp [jsonEscape, quote, slash, feed, ret, tab, back, form, control]

/-- Each character is written as one unit. -/
lemma units?_jsonEscape {s r : Text} {ns : List Nat} (rest : units? s = some (ns, r)) (c : Char) :
    units? (jsonEscape c ++ s) = some (c.toNat :: ns, r) := by
  rcases jsonEscape_cases c with
    ⟨d, mem, written, short⟩ | ⟨a, -, b, -, written, code⟩ | ⟨written, quote, slash, visible⟩
  · have letter : d ≠ 'u' := by
      rintro rfl
      exact absurd mem (by decide)
    have step := units?.eq_4 d s fun _ _ _ _ _ same _ => letter same
    simp only [short, rest, Option.bind_eq_bind, Option.bind_some] at step
    simp only [written, List.cons_append, List.nil_append]
    exact step
  · have step := units?.eq_3 '0' '0' a b s
    simp only [code, rest, Option.bind_eq_bind, Option.bind_some] at step
    simp only [written, List.cons_append, List.nil_append]
    exact step
  · have step := units?.eq_5 c s quote (fun _ _ _ _ _ same _ => slash same)
      (fun _ _ same _ => slash same)
    simp only [visible, rest, if_false, Option.bind_eq_bind, Option.bind_some] at step
    simp only [written, List.cons_append, List.nil_append]
    exact step

lemma units?_flatMap_jsonEscape (t r : Text) :
    units? (t.flatMap jsonEscape ++ '"' :: r) = some (t.map Char.toNat, r) := by
  induction t with
  | nil => rfl
  | cons c t ih =>
    simp only [List.flatMap_cons, List.append_assoc, List.map_cons]
    exact units?_jsonEscape ih c

/-- No character is a surrogate. -/
lemma ofUnits?_toNat_cons (c : Char) (ns : List Nat) :
    ofUnits? (c.toNat :: ns) = (ofUnits? ns).map (c :: ·) := by
  have valid : c.toNat < 0xd800 ∨ 0xdfff < c.toNat := by
    have := c.valid
    simp only [UInt32.isValidChar, Nat.isValidChar] at this
    simp only [Char.toNat]
    omega
  have high : isHigh c.toNat = false := by
    simp only [isHigh, Bool.and_eq_false_iff, decide_eq_false_iff_not]
    omega
  have low : isLow c.toNat = false := by
    simp only [isLow, Bool.and_eq_false_iff, decide_eq_false_iff_not]
    omega
  cases ns with
  | nil => simp [ofUnits?, high, low]
  | cons m ns => simp [ofUnits?, high, low]

lemma ofUnits?_map_toNat (t : Text) : ofUnits? (t.map Char.toNat) = some t := by
  induction t with
  | nil => rfl
  | cons c t ih => simp [ofUnits?_toNat_cons, ih]

/-- A written string is read back, whatever follows it. -/
theorem string?_flatMap_jsonEscape (t : String) (r : Text) :
    string? (t.toList.flatMap jsonEscape ++ '"' :: r) = some (t, r) := by
  simp [string?, units?_flatMap_jsonEscape, ofUnits?_map_toNat]

/-- A blank in front of an item is passed over. -/
lemma list?_cons_space {α : Type} (read : Text → Option (α × Text)) (close : Char) (count : Nat)
    (s : Text) : list? read close count (' ' :: s) = list? read close count s := by
  cases count with
  | zero => rfl
  | succ count => rfl

/-- An object is read member by member if a name follows its brace. -/
lemma value?_brace_quote (depth : Nat) (s : Text) :
    value? (depth + 1) ('{' :: '"' :: s) =
      (list? (member? (value? depth)) '}' ('"' :: s).length ('"' :: s)).map fun p =>
        (.object p.1, p.2) :=
  rfl

/-! ## What is written stays on one line -/

/-- No character of the text is a control character. -/
def Printed (s : Text) : Prop := ∀ c ∈ s, 0x20 ≤ c.toNat

lemma printed_append {s t : Text} : Printed (s ++ t) ↔ Printed s ∧ Printed t :=
  List.forall_mem_append

lemma printed_cons {c : Char} {s : Text} : Printed (c :: s) ↔ 0x20 ≤ c.toNat ∧ Printed s :=
  List.forall_mem_cons

instance (s : Text) : Decidable (Printed s) :=
  decidable_of_iff (s.all fun c => 0x20 ≤ c.toNat) (by simp [Printed])

lemma printed_jsonEscape (c : Char) : Printed (jsonEscape c) := by
  rcases jsonEscape_cases c with ⟨d, mem, written, -⟩ | ⟨a, ha, b, hb, written, -⟩ |
    ⟨written, -, -, visible⟩
  · have letters : Printed "\"\\nrtbf".toList := by decide
    simp only [written, printed_cons]
    exact ⟨by decide, letters d mem, by decide⟩
  · have digits : Printed "0123456789abcdef".toList := by decide
    have first : a ∈ "0123456789abcdef".toList := List.take_subset 2 _ ha
    simp only [written, printed_cons]
    exact ⟨by decide, by decide, by decide, by decide, digits a first, digits b hb, by decide⟩
  · simp only [written, Printed, List.mem_singleton]
    rintro _ rfl
    omega

lemma printed_jsonString (s : Text) : Printed (jsonString s) := by
  simp only [jsonString, List.cons_append, printed_cons, printed_append]
  refine ⟨by decide, ?_, by decide⟩
  intro x mem
  obtain ⟨c, -, inEscape⟩ := List.mem_flatMap.mp mem
  exact printed_jsonEscape c x inEscape

end Json

end StyleGate
