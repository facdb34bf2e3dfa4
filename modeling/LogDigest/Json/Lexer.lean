import LogDigest.Json.Basic
import LogDigest.Text.Numeral

/-!
# The lexical forms of JSON

Readers of strings, numbers and marks. Each takes the text from where it stands and returns what it
read and the rest. A text fails in one of two ways: it is *unfinished* when it ends where more is
due, and *malformed* when a character cannot stand where it stands.

A value that nobody asks for is passed over by the readers named `skip…`. They check less: the two
halves of a character written as a pair need not fit, and a number may have any size.
-/

namespace LogDigest.Json

/-- Why a text is not JSON. -/
inductive Fault where
  /-- A character cannot stand where it stands. -/
  | malformed
  /-- The text ends where more is due. -/
  | unfinished
deriving DecidableEq, Repr

/-- What was read and the rest, or why nothing was read. -/
abbrev Scan (α : Type) := Except Fault (α × List Char)

/-! ## Blanks, marks and words -/

/-- The four blanks of the format. -/
def isBlank (c : Char) : Bool := c = ' ' || c = '\n' || c = '\t' || c = '\r'

def skipBlanks (s : List Char) : List Char := s.dropWhile isBlank

def readWord : List Char → List Char → Except Fault (List Char)
  | [], s => .ok s
  | _ :: _, [] => .error .unfinished
  | w :: ws, c :: s => if c = w then readWord ws s else .error .malformed

/-- Reads the colon of a member, with blanks before it. -/
def readColon (s : List Char) : Except Fault (List Char) :=
  match skipBlanks s with
  | ':' :: rest => .ok rest
  | [] => .error .unfinished
  | _ :: _ => .error .malformed

/-! ## Strings -/

/-- The character that a letter stands for behind a backslash. -/
def unescape? (c : Char) : Option Char :=
  if c = '"' then some '"'
  else if c = '\\' then some '\\'
  else if c = '/' then some '/'
  else if c = 'n' then some '\n'
  else if c = 't' then some '\t'
  else if c = 'r' then some '\r'
  else if c = 'b' then some (Char.ofNat 8)
  else if c = 'f' then some (Char.ofNat 12)
  else none

/-- Whether fewer than four bytes are left, so that no four digits can follow. -/
def fewBytes (s : List Char) : Bool := (s.take 4).foldr (·.utf8Size + ·) 0 < 4

/-- Where a reader stands inside a string. -/
inductive StringState where
  | plain
  | escaped
  /-- Inside a character number: how many digits are due, the value so far, and the first half if
  this is the second half of a pair. -/
  | hex (due value : Nat) (lead : Option Nat)
  /-- Behind the first half of a pair, where a backslash is due. -/
  | pairMark (lead : Nat)
  /-- Behind that backslash, where the letter `u` is due. -/
  | pairLetter (lead : Nat)

/-- Puts a character before what is read after it. -/
def consChar (c : Char) (r : Scan (List Char)) : Scan (List Char) :=
  r.map fun (cs, rest) => (c :: cs, rest)

/-- Reads the inside of a string and its closing quote. -/
def readChars : StringState → List Char → Scan (List Char)
  | _, [] => .error .unfinished
  | .plain, c :: s =>
    if c = '"' then .ok ([], s)
    else if c = '\\' then readChars .escaped s
    else if c.toNat < 32 then .error .malformed
    else consChar c (readChars .plain s)
  | .escaped, c :: s =>
    if c = 'u' then
      if fewBytes s then .error .unfinished else readChars (.hex 4 0 none) s
    else
      match unescape? c with
      | some d => consChar d (readChars .plain s)
      | none => .error .malformed
  | .hex due value lead, c :: s =>
    match Text.hexValue? c with
    | none => .error .malformed
    | some d =>
      let v := value * 16 + d
      if 1 < due then readChars (.hex (due - 1) v lead) s
      else
        match lead with
        | some l =>
          if 0xDC00 ≤ v ∧ v ≤ 0xDFFF then
            consChar (Char.ofNat (0x10000 + (l - 0xD800) * 0x400 + (v - 0xDC00)))
              (readChars .plain s)
          else .error .malformed
        | none =>
          if 0xDC00 ≤ v ∧ v ≤ 0xDFFF then .error .malformed
          else if 0xD800 ≤ v ∧ v ≤ 0xDBFF then readChars (.pairMark v) s
          else consChar (Char.ofNat v) (readChars .plain s)
  | .pairMark l, c :: s => if c = '\\' then readChars (.pairLetter l) s else .error .malformed
  | .pairLetter l, c :: s =>
    if c = 'u' then
      if fewBytes s then .error .unfinished else readChars (.hex 4 0 (some l)) s
    else .error .malformed

def readString (s : List Char) : Scan String :=
  (readChars .plain s).map fun (cs, rest) => (String.ofList cs, rest)

def readKey (s : List Char) : Scan String :=
  match skipBlanks s with
  | '"' :: rest => readString rest
  | [] => .error .unfinished
  | _ :: _ => .error .malformed

/-- Passes over the inside of a string and its closing quote. `due` counts the digits of a
character number that are still to come. -/
def skipChars : (escaped : Bool) → (due : Nat) → List Char → Except Fault (List Char)
  | _, _, [] => .error .unfinished
  | _, due + 1, c :: s =>
    match Text.hexValue? c with
    | none => .error .malformed
    | some _ => skipChars false due s
  | true, 0, c :: s =>
    if c = 'u' then if fewBytes s then .error .unfinished else skipChars false 4 s
    else
      match unescape? c with
      | some _ => skipChars false 0 s
      | none => .error .malformed
  | false, 0, c :: s =>
    if c = '"' then .ok s
    else if c = '\\' then skipChars true 0 s
    else if c.toNat < 32 then .error .malformed
    else skipChars false 0 s

def skipString (s : List Char) : Except Fault (List Char) := skipChars false 0 s

/-! ## Numbers -/

def digitNext : List Char → Bool
  | c :: _ => c.isDigit
  | [] => false

/-- The digits at the start of the text and the rest. -/
def spanDigits (s : List Char) : List Char × List Char :=
  (s.takeWhile Char.isDigit, s.dropWhile Char.isDigit)

/-- Reads the digits before the point: a zero alone, or digits that do not open with a zero. -/
def readWhole : List Char → Scan (List Char)
  | [] => .error .unfinished
  | '0' :: s => if digitNext s then .error .malformed else .ok (['0'], s)
  | c :: s => if c.isDigit then .ok (spanDigits (c :: s)) else .error .malformed

/-- Reads the digits behind the point, if there is a point. -/
def readPlaces : List Char → Scan (Option (List Char))
  | '.' :: s =>
    match spanDigits s with
    | ([], []) => .error .unfinished
    | ([], _ :: _) => .error .malformed
    | (ds, rest) => .ok (some ds, rest)
  | s => .ok (none, s)

/-- Reads the exponent, if there is one. -/
def readExponent : List Char → Scan (Option Int)
  | c :: s =>
    if c = 'e' ∨ c = 'E' then
      let (negative, s) :=
        match s with
        | '+' :: s => (false, s)
        | '-' :: s => (true, s)
        | s => (false, s)
      match spanDigits s with
      | ([], []) => .error .unfinished
      | ([], _ :: _) => .error .malformed
      | (ds, rest) =>
        let n : Int := Nat.ofDigitChars 10 ds 0
        .ok (some (if negative then -n else n), rest)
    else .ok (none, c :: s)
  | [] => .ok (none, [])

/-- The largest significand of 64 bits. -/
def significandLimit : Nat := 18446744073709551615

/-- Appends digits to a significand up to the first one for which 64 bits are too few, and counts
that one and those behind it. -/
def absorb (significand : Nat) : List Char → Nat × Nat
  | [] => (significand, 0)
  | c :: cs =>
    let n := 10 * significand + (c.toNat - 48)
    if n ≤ significandLimit then absorb n cs else (significand, cs.length + 1)

/-- The number that the digits of a numeral name. Digits for which 64 bits are too few are left out:
before the point they count as zeros, behind the point not at all. -/
def numberOf (negative : Bool) (whole : List Char) (places : Option (List Char))
    (exponent : Option Int) : JsonNumber :=
  let (n, zeros) := absorb 0 whole
  let ps := places.getD []
  let (significand, cut) := absorb n ps
  let decimal : JsonNumber :=
    .decimal negative significand (zeros - (ps.length - cut : Nat) + exponent.getD 0)
  if places.isSome ∨ exponent.isSome ∨ 0 < zeros then decimal
  else if negative then
    if 0 < n ∧ n ≤ 9223372036854775808 then .integer (-(n : Int)) else decimal
  else .integer n

def readUnsigned (negative : Bool) (s : List Char) :
    Except Fault (JsonNumber × List Char) := do
  let (whole, s) ← readWhole s
  let (places, s) ← readPlaces s
  let (exponent, s) ← readExponent s
  return (numberOf negative whole places exponent, s)

def readNumber : List Char → Scan JsonNumber
  | '-' :: s => readUnsigned true s
  | s => readUnsigned false s

/-- Passes over a number. One that stops short is malformed here, also at the end of the text. -/
def skipNumber (s : List Char) : Except Fault (List Char) :=
  match readNumber s with
  | .ok (_, rest) => .ok rest
  | .error _ => .error .malformed

end LogDigest.Json
