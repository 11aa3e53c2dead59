import StyleGate.Config.Value
import StyleGate.Text.Uppercase

/-!
Log levels: numbers, most of them with a name. A level is asked for by a number, by a name in any
mixture of cases, or not at all; then the environment names it. A name that means nothing asks for
the level of information.
-/

namespace StyleGate.Log

open Config

def debug : Int := 10

def info : Int := 20

def warning : Int := 30

def error : Int := 40

def critical : Int := 50

/-- Why a level cannot be had. -/
inductive LevelError where
  /-- The value is neither a number nor a name. -/
  | notAName
  /-- The name stands for a text. -/
  | namesText
  /-- The name stands for a table. -/
  | namesTable
  deriving DecidableEq, Repr

/-- The names of levels. Where a level has two, records show the first. -/
def levelNumbers : List (Text × Int) :=
  [("CRITICAL".toList, critical), ("FATAL".toList, critical), ("ERROR".toList, error),
    ("WARNING".toList, warning), ("WARN".toList, warning), ("INFO".toList, info),
    ("DEBUG".toList, debug), ("NOTSET".toList, 0)]

/-- The level of a name in upper case. -/
def ofName (name : Text) : Except LevelError Int :=
  match levelNumbers.lookup name with
  | some n => .ok n
  | none =>
    if name == "BASIC_FORMAT".toList then .error .namesText
    else if name == "_STYLES".toList then .error .namesTable
    else .ok info

/-- The level that is asked for, where `named` is what the environment names. -/
def resolve (asked : Value) (named : Option String) : Except LevelError Int :=
  match asked.layer with
  | .scalar (.int n) => .ok n
  | .scalar (.bool b) => .ok (if b then 1 else 0)
  | layer =>
    if !asked.truthy then ofName (Text.upper (named.getD "INFO").toList)
    else match layer with
      | .scalar (.text s) => ofName (Text.upper s.toList)
      | _ => .error .notAName

/-- The name of a level in records. -/
def levelName (level : Int) : String :=
  match levelNumbers.find? fun (_, n) => n == level with
  | some (name, _) => String.ofList name
  | none => "Level " ++ toString level

end StyleGate.Log
