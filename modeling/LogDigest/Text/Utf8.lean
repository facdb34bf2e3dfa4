/-!
# UTF-8

Bytes as text and back. Decoding goes byte by byte. What it holds between two bytes is a `Begun`
character: its bits so far, how many bytes are due, and the bounds of the next one. The bounds rule
out overlong forms, surrogates and numbers beyond the last character.

A byte that cannot continue a begun character ends it as one fault and is read again from the start.
So every fault stands for the longest run of bytes that could have begun a character, or for one
byte. `lossy` writes each fault as U+FFFD, and `strict?` has no answer where there is one.
-/

namespace LogDigest.Utf8

/-- The bytes of a text. -/
def encode (s : List Char) : List UInt8 := s.flatMap String.utf8EncodeChar

/-- A character of which some bytes are there. -/
structure Begun where
  /-- The bits that were read. -/
  bits : Nat
  /-- How many bytes are due behind the next one. -/
  due : Nat
  /-- The least byte that may come next. -/
  low : Nat := 0x80
  /-- The greatest byte that may come next. -/
  high : Nat := 0xBF
deriving DecidableEq, Repr

/-- What is decided so far and what is begun. A fault is `none`. -/
abbrev Progress := List (Option Char) × Option Begun

/-- The first byte of a character. -/
def start (b : Nat) : Progress :=
  if b ≤ 0x7F then ([some (Char.ofNat b)], none)
  else if 0xC2 ≤ b ∧ b ≤ 0xDF then ([], some { bits := b - 0xC0, due := 0 })
  else if b = 0xE0 then ([], some { bits := 0, due := 1, low := 0xA0 })
  else if b = 0xED then ([], some { bits := 13, due := 1, high := 0x9F })
  else if 0xE1 ≤ b ∧ b ≤ 0xEF then ([], some { bits := b - 0xE0, due := 1 })
  else if b = 0xF0 then ([], some { bits := 0, due := 2, low := 0x90 })
  else if 0xF1 ≤ b ∧ b ≤ 0xF3 then ([], some { bits := b - 0xF0, due := 2 })
  else if b = 0xF4 then ([], some { bits := 4, due := 2, high := 0x8F })
  else ([none], none)

/-- The next byte. -/
def feed : Option Begun → Nat → Progress
  | none, b => start b
  | some g, b =>
    if g.low ≤ b ∧ b ≤ g.high then
      let bits := g.bits * 64 + (b - 0x80)
      match g.due with
      | 0 => ([some (Char.ofNat bits)], none)
      | due + 1 => ([], some { bits, due })
    else
      let (decided, begun) := start b
      (none :: decided, begun)

/-- The characters and faults of bytes behind a begun character. -/
def decodeFrom : Option Begun → List UInt8 → List (Option Char)
  | none, [] => []
  | some _, [] => [none]
  | begun, b :: bs =>
    let (decided, begun) := feed begun b.toNat
    decided ++ decodeFrom begun bs

/-- The characters and faults of bytes. -/
def decode (bytes : List UInt8) : List (Option Char) := decodeFrom none bytes

/-- The character that stands for a fault. -/
def replacement : Char := '\ufffd'

/-- The text of bytes, with a replacement for every fault. -/
def lossy (bytes : List UInt8) : List Char := (decode bytes).map fun c => c.getD replacement

/-- The text of bytes without a fault. -/
def strict? (bytes : List UInt8) : Option (List Char) := (decode bytes).mapM id

end LogDigest.Utf8
