import StyleGate.Log.Level
import StyleGate.Text.JsonString

/-!
Log records and the two forms in which they are written, one line each.
-/

namespace StyleGate.Log

/-- A message at a level, sent to a named channel. -/
structure Record where
  channel : String
  level : Int
  message : String
  deriving DecidableEq, Repr

inductive Format where
  | plain
  | json
  deriving DecidableEq, Repr

def jsonField (name value : String) : Text :=
  Text.jsonString name.toList ++ ": ".toList ++ Text.jsonString value.toList

/-- One JSON object on one line. -/
def Record.json (time : String) (r : Record) : Text :=
  '{' :: (jsonField "timestamp" time ++ ", ".toList ++ jsonField "level" (levelName r.level) ++
    ", ".toList ++ jsonField "logger" r.channel ++ ", ".toList ++ jsonField "event" r.message) ++
    ['}']

/-- The text of a record, without the final line feed. -/
def Record.render (format : Format) (time : String) (r : Record) : String :=
  match format with
  | .plain => r.message
  | .json => String.ofList (r.json time)

end StyleGate.Log
