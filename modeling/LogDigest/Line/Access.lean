import LogDigest.Calendar.Permissive
import LogDigest.Record.Basic

/-!
# Access lines

An access line is read by position. Its words are date, time, level, thread, address, request, a
hyphen, status, and the words of the message. A hyphen in the place of the address or the request
says that there is none; a thread or status that is no number is unknown.
-/

namespace LogDigest.Entry

open Text

/-- Whether a character is a square bracket. -/
def isBracket (c : Char) : Bool := c = '[' || c = ']'

/-- The number of a thread: the word without brackets at its ends and without one leading
`Thread-`. -/
def threadOf? (word : List Char) : Option Int64 :=
  let inner := ((word.dropWhile isBracket).reverse.dropWhile isBracket).reverse
  let label := ['T', 'h', 'r', 'e', 'a', 'd', '-']
  int64? (if label.isPrefixOf inner then inner.drop label.length else inner)

/-- A word, unless it is the mark for an absent one. -/
def presentWord? (word : List Char) : Option String :=
  if word = ['-'] then none else some (String.ofList word)

def ofAccessWords? : List (List Char) → Option Entry
  | date :: time :: level :: thread :: ip :: request :: _ :: status :: words =>
    (Timestamp.ofText? (date ++ ' ' :: time)).map fun timestamp =>
      { timestamp,
        level := String.ofList level
        threadId := threadOf? thread
        sourceIp := presentWord? ip
        request := presentWord? request
        statusCode := (int32? status).getD unknownStatus
        message := String.ofList (unwords words) }
  | _ => none

def ofAccessLine? (line : List Char) : Option Entry := ofAccessWords? (words line)

/-- Whether words look like those of an access line: a thread in brackets, a hyphen and a numeric
status in their places. -/
def looksLikeAccess : List (List Char) → Bool
  | _ :: _ :: _ :: thread :: _ :: _ :: hyphen :: status :: _ =>
    thread.head? == some '[' && thread.getLast? == some ']' && hyphen == ['-'] &&
      (int32? status).isSome
  | _ => false

end LogDigest.Entry
