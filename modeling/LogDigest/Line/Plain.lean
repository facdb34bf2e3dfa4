import LogDigest.Calendar.Permissive
import LogDigest.Record.Basic

/-!
# Plain lines

A plain line holds a date, a time, a level and a message. Blanks and points separate its words, so
a fraction of the second counts as the level and the points of a message are lost.
-/

namespace LogDigest.Entry

open Text

/-- The entry of a plain line: four words at least, of which the first two name a moment. -/
def ofPlainLine? (line : List Char) : Option Entry :=
  match nonemptyPieces (fun c => isBlank c || c == '.') line with
  | date :: time :: level :: word :: words =>
    (Timestamp.ofText? (date ++ ' ' :: time)).map fun timestamp =>
      { timestamp, level := String.ofList level,
        message := String.ofList (unwords (word :: words)) }
  | _ => none

end LogDigest.Entry
