import StyleGate.Text.Class

/-!
Base64 as it is read leniently: characters outside the alphabet are skipped, and enough padding ends
the text wherever it stands.
-/

namespace StyleGate.Yaml.Base64

def digit? (c : Char) : Option Nat :=
  if c.isUpper then some (c.toNat - 'A'.toNat)
  else if c.isLower then some (c.toNat - 'a'.toNat + 26)
  else if c.isDigit then some (c.toNat - '0'.toNat + 52)
  else if c == '+' then some 62
  else if c == '/' then some 63
  else none

/-- Decodes from inside a group of four: `place` is the number of its digits read so far, `left` the
bits they leave over, `padding` the number of padding characters since the last digit. `done` is
held last byte first. A group left open is an error. -/
def decodeFrom (place left padding : Nat) (done : List UInt8) : Text → Option (List UInt8)
  | [] => if place == 0 then some done.reverse else none
  | c :: s =>
    if c == '=' then
      if 2 ≤ place && 4 ≤ place + padding + 1 then some done.reverse
      else decodeFrom place left (if 2 ≤ place then padding + 1 else padding) done s
    else match digit? c with
      | none => decodeFrom place left padding done s
      | some d =>
        match place with
        | 0 => decodeFrom 1 d 0 done s
        | 1 => decodeFrom 2 (d % 16) 0 ((left * 4 + d / 16).toUInt8 :: done) s
        | 2 => decodeFrom 3 (d % 4) 0 ((left * 16 + d / 4).toUInt8 :: done) s
        | _ => decodeFrom 0 0 0 ((left * 64 + d).toUInt8 :: done) s

def decode? (s : Text) : Option (List UInt8) := decodeFrom 0 0 0 [] s

end StyleGate.Yaml.Base64
