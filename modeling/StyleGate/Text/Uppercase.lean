import StyleGate.Text.Class

/-!
Upper case, for comparison with names of plain letters: exactly those characters are mapped whose
upper case consists of plain letters. All others stay, and no name holds one.
-/

namespace StyleGate.Text

def upperChar (c : Char) : Text :=
  if c.isLower then [c.toUpper]
  else match c.toNat with
    | 0xdf => ['S', 'S']
    | 0x131 => ['I']
    | 0x17f => ['S']
    | 0xfb00 => ['F', 'F']
    | 0xfb01 => ['F', 'I']
    | 0xfb02 => ['F', 'L']
    | 0xfb03 => ['F', 'F', 'I']
    | 0xfb04 => ['F', 'F', 'L']
    | 0xfb05 => ['S', 'T']
    | 0xfb06 => ['S', 'T']
    | _ => [c]

def upper (s : Text) : Text := s.flatMap upperChar

end StyleGate.Text
