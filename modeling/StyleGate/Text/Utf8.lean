import StyleGate.Text.Class

/-!
Reading UTF-8. Well-formed bytes give their text; other bytes give the first fault: the span of
bytes that cannot be read and why. The span of a bad continuation is the lead byte with the good
continuation bytes before the bad one.
-/

namespace StyleGate.Utf8

inductive Reason where
  /-- A byte that starts no character. -/
  | badStart
  /-- A byte that cannot continue the character begun before it. -/
  | badContinuation
  /-- The bytes end inside a character. -/
  | cutShort
  deriving DecidableEq, Repr

def Reason.message : Reason → String
  | .badStart => "invalid start byte"
  | .badContinuation => "invalid continuation byte"
  | .cutShort => "unexpected end of data"

/-- The bytes from `start` up to, not including, `stop` cannot be read; `lead` is the first. -/
structure Fault where
  start : Nat
  stop : Nat
  lead : UInt8
  reason : Reason
  deriving DecidableEq, Repr

/-- Two hexadecimal digits, in lower case. -/
def hexByte (b : UInt8) : String :=
  String.ofList [Nat.digitChar (b.toNat / 16), Nat.digitChar (b.toNat % 16)]

def Fault.message (f : Fault) : String :=
  "'utf-8' codec can't decode " ++
    (if f.stop == f.start + 1 then
      "byte 0x" ++ hexByte f.lead ++ " in position " ++ toString f.start
    else "bytes in position " ++ toString f.start ++ "-" ++ toString (f.stop - 1)) ++
    ": " ++ f.reason.message

/-- A character begun at `start` that still owes continuation bytes, the next of them between `low`
and `high`. -/
structure Pending where
  start : Nat
  lead : UInt8
  owed : Nat
  low : UInt8 := 0x80
  high : UInt8 := 0xbf

/-- What a lead byte owes. The narrowed ranges shut out overlong forms, surrogates and code points
beyond the last. -/
def Pending.ofLead (start : Nat) (b : UInt8) : Option Pending :=
  if b < 0xc2 then none
  else if b < 0xe0 then some ⟨start, b, 1, 0x80, 0xbf⟩
  else if b == 0xe0 then some ⟨start, b, 2, 0xa0, 0xbf⟩
  else if b == 0xed then some ⟨start, b, 2, 0x80, 0x9f⟩
  else if b < 0xf0 then some ⟨start, b, 2, 0x80, 0xbf⟩
  else if b == 0xf0 then some ⟨start, b, 3, 0x90, 0xbf⟩
  else if b < 0xf4 then some ⟨start, b, 3, 0x80, 0xbf⟩
  else if b == 0xf4 then some ⟨start, b, 3, 0x80, 0x8f⟩
  else none

/-- What is owed after one good continuation byte. -/
def Pending.next (p : Pending) : Option Pending :=
  if p.owed ≤ 1 then none else some ⟨p.start, p.lead, p.owed - 1, 0x80, 0xbf⟩

/-- The first fault at or after `position`, with the character pending there. -/
def faultFrom (pending : Option Pending) (position : Nat) : List UInt8 → Option Fault
  | [] => pending.map fun p => ⟨p.start, position, p.lead, .cutShort⟩
  | b :: bs =>
    match pending with
    | none =>
      if b < 0x80 then faultFrom none (position + 1) bs
      else match Pending.ofLead position b with
        | none => some ⟨position, position + 1, b, .badStart⟩
        | some p => faultFrom (some p) (position + 1) bs
    | some p =>
      if p.low ≤ b && b ≤ p.high then faultFrom p.next (position + 1) bs
      else some ⟨p.start, position, p.lead, .badContinuation⟩

def firstFault? (bytes : ByteArray) : Option Fault := faultFrom none 0 bytes.toList

def decode (bytes : ByteArray) : Except Fault Text :=
  match String.fromUTF8? bytes with
  | some s => .ok s.toList
  | none => .error ((firstFault? bytes).getD ⟨0, bytes.size, 0, .cutShort⟩)

/-- The three bytes that may mark a file as UTF-8. -/
def mark : List UInt8 := [0xef, 0xbb, 0xbf]

/-- Decodes bytes that may start with the mark, which is no part of the text. A mark that the end
cuts short is no text either. Positions count from after the mark. -/
def decodeMarked (bytes : ByteArray) : Except Fault Text :=
  let front := (bytes.extract 0 3).toList
  if front.length < 3 && front.isPrefixOf mark then .ok []
  else if front == mark then decode (bytes.extract 3 bytes.size)
  else decode bytes

end StyleGate.Utf8
