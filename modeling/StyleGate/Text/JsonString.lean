import StyleGate.Text.Quoted

/-!
JSON strings on one line: the quote, the backslash and every control character below the space are
escaped, and all other characters stand for themselves.
-/

namespace StyleGate.Text

def jsonEscape (c : Char) : Text :=
  if c == '"' || c == '\\' then ['\\', c]
  else if c == '\n' then ['\\', 'n']
  else if c == '\r' then ['\\', 'r']
  else if c == '\t' then ['\\', 't']
  else if c == '\x08' then ['\\', 'b']
  else if c == '\x0c' then ['\\', 'f']
  else if c.toNat < 0x20 then '\\' :: 'u' :: hex 4 c.toNat
  else [c]

def jsonString (s : Text) : Text := '"' :: s.flatMap jsonEscape ++ ['"']

end StyleGate.Text
