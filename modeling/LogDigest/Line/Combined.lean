import LogDigest.Calendar.Permissive
import LogDigest.Record.Basic
import LogDigest.Text.DecimalDigit

/-!
# Combined lines

A combined line holds, somewhere in it, an address, a user, a moment in brackets, a request in
quotes, a status and a size, and behind them the level:

    10.0.0.1 - alice [10/Oct/2000:13:55:36 -0700] "GET / HTTP/1.0" 200 2326 Error

The first place from which this shape can be read decides; if its moment is none, the line is
refused. Every part of the shape ends where its class of characters ends, so from one place there is
at most one way to read it.
-/

namespace LogDigest

open Text

/-- The parts of a combined line. -/
structure CombinedParts where
  /-- The address: four runs of digits. -/
  ip : List Char
  /-- The user, a hyphen for none. -/
  user : List Char
  /-- What stands in the brackets. -/
  timestamp : List Char
  /-- What stands in the quotes. -/
  request : List Char
  /-- The status, a run of digits. -/
  status : List Char
  /-- The size, a run of digits, a hyphen for none. -/
  size : List Char
  /-- What stands behind the size. -/
  rest : List Char
deriving DecidableEq, Repr

namespace CombinedParts

/-- A non-empty run of characters of a class and what is behind it. -/
def run? (p : Char → Bool) (s : List Char) : Option (List Char × List Char) :=
  match s.span p with
  | ([], _) => none
  | r => some r

/-- What is behind a given text. -/
def after? : List Char → List Char → Option (List Char)
  | [], s => some s
  | _ :: _, [] => none
  | p :: ps, c :: s => if p = c then after? ps s else none

/-- Four runs of digits with points between them, and what is behind them. -/
def address? (s : List Char) : Option (List Char × List Char) := do
  let (a, s) ← run? isDecimalDigit s
  let s ← after? ['.'] s
  let (b, s) ← run? isDecimalDigit s
  let s ← after? ['.'] s
  let (c, s) ← run? isDecimalDigit s
  let s ← after? ['.'] s
  let (d, s) ← run? isDecimalDigit s
  return (a ++ '.' :: b ++ '.' :: c ++ '.' :: d, s)

/-- The size or a hyphen, and what is behind it. -/
def sizeField? (s : List Char) : Option (List Char × List Char) :=
  match run? isDecimalDigit s with
  | some r => some r
  | none => (after? ['-'] s).map fun s => (['-'], s)

/-- Reads the parts from the start of the text. -/
def readHere? (s : List Char) : Option CombinedParts := do
  let (ip, s) ← address? s
  let s ← after? [' ', '-', ' '] s
  let (user, s) ← run? (fun c => !isBlank c) s
  let s ← after? [' ', '['] s
  let (timestamp, s) := s.span fun c => c != ']'
  let s ← after? [']', ' ', '"'] s
  let (request, s) := s.span fun c => c != '"'
  let s ← after? ['"', ' '] s
  let (status, s) ← run? isDecimalDigit s
  let s ← after? [' '] s
  let (size, rest) ← sizeField? s
  if rest.contains '\n' then none
  else return { ip, user, timestamp, request, status, size, rest }

/-- Reads the parts from the first place where they can be read. -/
def find? : List Char → Option CombinedParts
  | [] => none
  | c :: s =>
    match readHere? (c :: s) with
    | some parts => some parts
    | none => find? s

/-- The entry that the parts describe, if the brackets hold a moment. -/
def entry? (p : CombinedParts) : Option Entry :=
  (Timestamp.ofText? p.timestamp).map fun timestamp =>
    { timestamp,
      level := String.ofList (trim p.rest)
      sourceIp := some (String.ofList p.ip)
      request := some (String.ofList p.request)
      statusCode := (int32? p.status).getD unknownStatus
      user := if p.user = ['-'] then none else some (String.ofList p.user)
      size := uint64? p.size }

end CombinedParts

def Entry.ofCombinedLine? (line : List Char) : Option Entry :=
  (CombinedParts.find? line).bind CombinedParts.entry?

end LogDigest
