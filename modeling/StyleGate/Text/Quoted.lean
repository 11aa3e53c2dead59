import StyleGate.Text.Printable

/-!
Quoted text: single quotes unless the text holds one and no double quote. The quote in use and the
backslash are escaped, and so is every character that cannot be printed.
-/

namespace StyleGate.Text

/-- Hexadecimal digits, in lower case, at least `width` of them. -/
def hex (width n : Nat) : Text :=
  let digits := Nat.toDigits 16 n
  List.replicate (width - digits.length) '0' ++ digits

/-- The quote that this text is put into. -/
def quoteFor (s : Text) : Char := if s.contains '\'' && !s.contains '"' then '"' else '\''

def escapeCode (n : Nat) : Text :=
  if n < 0x100 then '\\' :: 'x' :: hex 2 n
  else if n < 0x10000 then '\\' :: 'u' :: hex 4 n
  else '\\' :: 'U' :: hex 8 n

def escapeIn (quote c : Char) : Text :=
  if c == quote || c == '\\' then ['\\', c]
  else if c == '\n' then ['\\', 'n']
  else if c == '\r' then ['\\', 'r']
  else if c == '\t' then ['\\', 't']
  else if isPrintable c then [c]
  else escapeCode c.toNat

def quoted (s : Text) : Text :=
  let quote := quoteFor s
  quote :: s.flatMap (escapeIn quote) ++ [quote]

/-- Bytes are quoted as the characters they number, of which only those of ASCII can be printed. -/
def quotedBytes (bytes : List UInt8) : Text :=
  let s := bytes.map fun b => Char.ofNat b.toNat
  let quote := quoteFor s
  quote :: s.flatMap (fun c => if c.toNat < 0x80 then escapeIn quote c else escapeCode c.toNat) ++
    [quote]

end StyleGate.Text
