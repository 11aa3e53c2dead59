import StyleGate.Document
import StyleGate.Text.Utf8

/-!
The characters of a YAML stream. A stream is read in blocks, and a block that cannot be decoded or
holds a character that YAML does not allow is a fault only once the reader gets there. So a stream
is the characters before the first bad block together with what comes after them. What can be
decoded is settled by the bytes alone; which characters are allowed is for the reader to say.
-/

namespace StyleGate.Yaml

/-- What follows the characters of a stream. -/
inductive Ending where
  | clean
  | undecodable
  | unprintable
  deriving DecidableEq, Repr

structure Stream where
  chars : Text
  ending : Ending

/-- The characters that a stream may hold. -/
def isAllowed (c : Char) : Bool :=
  let n := c.toNat
  n == 0x09 || n == 0x0a || n == 0x0d || (0x20 ≤ n && n ≤ 0x7e) || n == 0x85 ||
    (0xa0 ≤ n && n ≤ 0xfffd) || 0x10000 ≤ n

namespace Stream

/-- How many characters are read at a time, after a first block of twice as many. -/
def blockSize : Nat := 4096

/-- How many bytes are decoded at a time, at the least. -/
def chunkSize : Nat := 8192

/-- How many characters come before the block that holds the character at `index`. -/
def blockStart (index : Nat) : Nat :=
  if index < 2 * blockSize then 0 else index / blockSize * blockSize

/-- Cuts a stream before the first block with a character that is not allowed. -/
def screen (s : Stream) : Stream :=
  match s.chars.findIdx? fun c => !isAllowed c with
  | none => s
  | some i => ⟨s.chars.take (blockStart i), .unprintable⟩

/-- The characters of the first bytes. One that is cut short waits for what follows, and so does a
carriage return at the end. -/
def decoded (bytes : ByteArray) (stop : Nat) : Text :=
  let front := bytes.extract 0 stop
  let kept := match Utf8.firstFault? front with
    | some f => front.extract 0 f.start
    | none => front
  match Utf8.decode kept with
  | .ok s => Text.unifyBreaks (if s.getLast? == some '\r' then s.dropLast else s)
  | .error _ => []

/-- How many bytes the next chunk has: as many as the characters that the block lacks would take if
they were as long as those of the chunk before, which had so many bytes and characters. -/
def nextChunk (bytes chars lacking : Nat) : Nat :=
  let ratio := if chars == 0 then 0.0 else bytes.toFloat / chars.toFloat
  max chunkSize (ratio * lacking.toFloat).toUInt64.toNat

/-- Where the chunk starts that reaches the byte at `place`, from a chunk on that starts at `start`
and comes after one with so many bytes and characters. -/
def chunkStart (all : ByteArray) (place fuel start bytes chars : Nat) : Nat :=
  match fuel with
  | 0 => start
  | fuel + 1 =>
    let before := (decoded all start).length
    let size := nextChunk bytes chars (blockSize - before % blockSize)
    if place < start + size then start
    else
      chunkStart all place fuel (start + size) size ((decoded all (start + size)).length - before)

/-- The characters that can be read before the chunk in which a fault shows: whole blocks of what
the earlier chunks hold, at least two. -/
def beforeFault (bytes : ByteArray) (fault : Utf8.Fault) : Text :=
  let stop := match fault.reason with
    | .badStart => chunkStart bytes fault.start bytes.size 0 0 0
    | .badContinuation => chunkStart bytes fault.stop bytes.size 0 0 0
    | .cutShort => bytes.size
  let text := decoded bytes stop
  let blocks := text.length / blockSize
  if blocks < 2 then [] else text.take (blocks * blockSize)

/-- The stream of a file, with every line break as a line feed. -/
def ofBytes (bytes : ByteArray) : Stream :=
  match Utf8.decode bytes with
  | .ok s => ⟨Text.unifyBreaks s, .clean⟩
  | .error fault => ⟨beforeFault bytes fault, .undecodable⟩

end Stream

end StyleGate.Yaml
