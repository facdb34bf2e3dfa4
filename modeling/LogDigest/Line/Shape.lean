import LogDigest.Line.Access
import LogDigest.Line.Combined
import LogDigest.Line.Plain

/-!
# Shapes of log lines

Three shapes of lines can be read, and a fourth choice finds the shape of every line by itself: a
line is combined if it can be read so, otherwise an access line if it looks like one and can be read
so, otherwise plain.
-/

namespace LogDigest

open Text

/-- How lines are read. -/
inductive LineShape where
  /-- Date, time, level and message. -/
  | plain
  /-- Words by position. -/
  | access
  | combined
  /-- Whichever shape fits a line. -/
  | auto
deriving DecidableEq, Repr

namespace LineShape

def all : List LineShape := [.plain, .access, .combined, .auto]

def label : LineShape → String
  | plain => "plain"
  | access => "access"
  | combined => "combined"
  | auto => "auto"

/-- The shape that a setting names, without regard to letter case and surrounding blanks. -/
def ofText (s : String) : Except String LineShape :=
  let name := lower (String.ofList (trim s.toList))
  match all.find? fun shape => shape.label == name with
  | some shape => .ok shape
  | none => .error s!"unknown parse mode '{name}'"

/-- The entry of a line whose shape is found by itself. -/
def readAuto? (line : List Char) : Option Entry :=
  match Entry.ofCombinedLine? line with
  | some e => some e
  | none =>
    let tokens := words line
    match if Entry.looksLikeAccess tokens then Entry.ofAccessWords? tokens else none with
    | some e => some e
    | none => Entry.ofPlainLine? line

def read? : LineShape → List Char → Option Entry
  | plain => Entry.ofPlainLine?
  | access => Entry.ofAccessLine?
  | combined => Entry.ofCombinedLine?
  | auto => readAuto?

end LineShape

end LogDigest
