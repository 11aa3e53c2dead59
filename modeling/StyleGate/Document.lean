import StyleGate.Text.Blank

/-!
A source document: its text and its numbered lines. Only a carriage return, a line feed or the two
together end a line; form feeds and other separators stay inside it. Text after the last line break
is a line only if there is any.
-/

namespace StyleGate

/-- `splitLines` in the middle of a line: `line` is what was read of it and `done` the lines before
it, both last first. -/
def Text.splitLinesFrom (line : Text) (done : List Text) : Text → List Text
  | [] => (if line.isEmpty then done else line.reverse :: done).reverse
  | '\r' :: '\n' :: s => splitLinesFrom [] (line.reverse :: done) s
  | c :: s =>
    if c == '\n' || c == '\r' then splitLinesFrom [] (line.reverse :: done) s
    else splitLinesFrom (c :: line) done s

def Text.splitLines (s : Text) : List Text := splitLinesFrom [] [] s

/-- `unifyBreaks` after `done`, which is held last character first. -/
def Text.unifyBreaksFrom (done : Text) : Text → Text
  | [] => done.reverse
  | '\r' :: '\n' :: s => unifyBreaksFrom ('\n' :: done) s
  | c :: s => unifyBreaksFrom ((if c == '\r' then '\n' else c) :: done) s

/-- Every line break as a line feed. -/
def Text.unifyBreaks (s : Text) : Text := unifyBreaksFrom [] s

/-- One line, numbered from one. -/
structure Line where
  number : Nat
  raw : Text
  deriving DecidableEq, Repr

namespace Line

def trimmed (l : Line) : Text := Text.trim l.raw

def blank (l : Line) : Bool := l.trimmed.isEmpty

end Line

/-- `lines` keeps the order and exact text of the lines; `text` serves searches that ignore their
boundaries. -/
structure Document where
  lines : List Line
  text : Text
  deriving DecidableEq, Repr

namespace Document

def ofText (text : Text) : Document where
  lines := (Text.splitLines text).mapIdx fun i raw => ⟨i + 1, raw⟩
  text := text

def rawLines (d : Document) : List Text := d.lines.map Line.raw

/-- A line number that the document does not have. -/
structure LineError where
  number : Int
  count : Nat
  deriving DecidableEq, Repr

def LineError.message (e : LineError) : String :=
  "line " ++ toString e.number ++ " out of range 1.." ++ toString e.count

/-- The line with this number. -/
def line (d : Document) (number : Int) : Except LineError Line :=
  if number < 1 then .error ⟨number, d.lines.length⟩
  else match d.lines[number.toNat - 1]? with
    | some l => .ok l
    | none => .error ⟨number, d.lines.length⟩

end Document

end StyleGate
