import LogDigest.Text.Blank
import LogDigest.Text.Numeral

/-!
# The signs of a pattern

A pattern describes texts, as a regular expression does. Here it is only read, to find out whether
it is one; it is never compared with a text. What matters of a sign is therefore what kind of thing
it stands for.

**Modes.** Signs stand for characters, or for bytes. A pattern must describe texts, so in the mode
of bytes no sign may stand for a byte that is no character by itself. In the spaced mode blanks and
remarks between signs do not count.
-/

namespace LogDigest.Pattern

open Text

/-! ## Modes -/

/-- How the text of a pattern is read. -/
structure Mode where
  /-- Whether signs stand for characters, and not for bytes. -/
  characters : Bool := true
  /-- Whether blanks and remarks between signs do not count. -/
  spaced : Bool := false
deriving DecidableEq, Repr

/-- The text without leading blanks and remarks. A remark goes from `#` to the end of its line. -/
def dropRemarks : (inRemark : Bool) → List Char → List Char
  | _, [] => []
  | true, c :: s => dropRemarks (c ≠ '\n') s
  | false, c :: s =>
    if isBlank c then dropRemarks false s else if c = '#' then dropRemarks true s else c :: s

/-- The text without what does not count before the next sign. -/
def Mode.skip (m : Mode) (s : List Char) : List Char := if m.spaced then dropRemarks false s else s

/-! ## Signs -/

/-- What a sign stands for. -/
inductive Sign where
  /-- One character, which may be written as the number of a byte. -/
  | char (c : Char) (asByte : Bool)
  /-- The digits, blanks or word characters, or everything outside of them. -/
  | kind (outside : Bool)
  | category
  | any
  /-- A place in the text, perhaps one that depends on the words of the text. -/
  | place (ofWord : Bool)
deriving DecidableEq, Repr

namespace Sign

def mayStand (m : Mode) : Sign → Bool
  | char c asByte => m.characters || !asByte || c.toNat < 128
  | kind outside => m.characters || !outside
  | category | any => m.characters
  | place _ => true

/-- Whether a sign may stand in a set. -/
def mayBeMember (m : Mode) : Sign → Bool
  | char c _ => m.characters || c.toNat < 128
  | kind outside => m.characters || !outside
  | category => m.characters
  | any | place _ => false

def asksForWords (m : Mode) : Sign → Bool
  | place ofWord => ofWord && m.characters
  | _ => false

end Sign

/-! ## Signs behind a backslash -/

/-- Reads the hexadecimal digits that are due. -/
def readHex (m : Mode) : (due value : Nat) → List Char → Option (Nat × List Char)
  | 0, value, s => some (value, s)
  | due + 1, value, s =>
    match m.skip s with
    | [] => none
    | c :: rest =>
      match hexValue? c with
      | some d => readHex m due (value * 16 + d) rest
      | none => none

/-- Reads the number of a character. -/
def readNumber (m : Mode) (due : Nat) (s : List Char) : Option (Sign × List Char) :=
  match readHex m due 0 s with
  | some (n, rest) =>
    if n.isValidChar then some (.char (Char.ofNat n) (due = 2), rest) else none
  | none => none

/-- Reads the letter of a category. -/
def readCategory (m : Mode) (s : List Char) : Option (Sign × List Char) :=
  match m.skip s with
  | c :: rest =>
    if ['c', 'l', 'm', 'n', 'p', 's', 'z'].contains c.toLower then some (.category, rest) else none
  | [] => none

/-- What a letter stands for behind a backslash, if it does so alone. -/
def ofLetter? (c : Char) : Option Sign :=
  if c = 'd' || c = 's' || c = 'w' then some (.kind false)
  else if c = 'D' || c = 'S' || c = 'W' then some (.kind true)
  else if c = 'A' || c = 'z' then some (.place false)
  else if c = 'b' || c = 'B' || c = '<' || c = '>' then some (.place true)
  else if c = 'a' then some (.char (Char.ofNat 7) false)
  else if c = 't' then some (.char (Char.ofNat 9) false)
  else if c = 'n' then some (.char (Char.ofNat 10) false)
  else if c = 'v' then some (.char (Char.ofNat 11) false)
  else if c = 'f' then some (.char (Char.ofNat 12) false)
  else if c = 'r' then some (.char (Char.ofNat 13) false)
  else none

/-- Reads a sign behind its backslash. ASCII characters that are no letters and no digits stand for
themselves. -/
def readEscaped (m : Mode) : List Char → Option (Sign × List Char)
  | [] => none
  | c :: rest =>
    if c = 'x' then readNumber m 2 rest
    else if c = 'u' then readNumber m 4 rest
    else if c = 'U' then readNumber m 8 rest
    else if c = 'p' || c = 'P' then readCategory m rest
    else
      match ofLetter? c with
      | some sign => some (sign, rest)
      | none => if c.toNat < 128 && !c.isAlphanum then some (.char c false, rest) else none

end LogDigest.Pattern
