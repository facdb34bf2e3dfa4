import LogDigest.Event
import LogDigest.Line.Shape

/-!
# Texts of many lines

Every line of a text is read by itself. A line that is no entry is discarded and counted; unless it
is blank, the log tells its number and its beginning, at most `previewLimit` characters of it.
-/

namespace LogDigest

open Text

/-- How many characters of a line may appear in an event. -/
def previewLimit : Nat := 200

/-- The counts of a text. -/
structure TextStats where
  lines : Nat := 0
  parsed : Nat := 0
  discarded : Nat := 0
deriving DecidableEq, Repr

/-- A line with what was read from it. -/
structure LineOutcome where
  line : List Char
  entry : Option Entry
deriving DecidableEq, Repr

namespace LineOutcome

/-- The event about a line, if there is one. -/
def event? (o : LineOutcome) (number : Nat) : Option Event :=
  match o.entry with
  | some _ => none
  | none =>
    if (trim o.line).isEmpty then none
    else some (.lineDiscarded number (String.ofList (o.line.take previewLimit)))

end LineOutcome

/-- The lines of a text with what was read from them. -/
abbrev Batch := List LineOutcome

namespace Batch

/-- Reads the lines of a text. -/
def ofText (read : List Char → Option Entry) (text : List Char) : Batch :=
  (lines text).map fun line => { line, entry := read line }

/-- The entries in the order of their lines. -/
def entries (b : Batch) : List Entry := b.filterMap (·.entry)

def stats (b : Batch) : TextStats where
  lines := b.length
  parsed := b.entries.length
  discarded := b.length - b.entries.length

/-- The events about lines, the first of which has the given number. -/
def lineEvents (b : Batch) (number : Nat) : List Event :=
  match b with
  | [] => []
  | o :: b => (o.event? number).toList ++ lineEvents b (number + 1)

/-- The events about a text read by a parser of this name. -/
def events (b : Batch) (parser : String) : List Event :=
  lineEvents b 1 ++ [.textParsed parser b.stats.lines b.stats.parsed b.stats.discarded]

end Batch

end LogDigest
