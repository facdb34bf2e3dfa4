import LogDigest.Line.Batch
import LogDigest.Record.Document

/-!
# Attempts at records

The readers of lines and documents, as programs that share the counter of identities. An attempt
asks for an identity when it makes the record. What it took stays taken if it fails afterwards, and
an attempt that comes after it finds the counter as the first one left it.
-/

namespace LogDigest

open Text

/-- An attempt that may fail, whatever it took from the counter before. -/
abbrev Attempt := OptionT (StateM IdCounter)

namespace Attempt

/-- What an attempt gives, and the counter that it leaves. -/
def outcome {α : Type} (x : Attempt α) (c : IdCounter) : Option α × IdCounter := (x.run c).run

/-- A value that the attempt cannot do without. -/
def need {α : Type} (a : Option α) : Attempt α := OptionT.mk (pure a)

/-- Makes the record of an entry: it takes the next identity. -/
def build (e : Entry) : Attempt Record := modifyGet fun c => c.mint e

/-- A plain line: four words at least, of which the first two name a moment. -/
def plain (line : List Char) : Attempt Record :=
  if (trim line).isEmpty then failure
  else
    match nonemptyPieces (fun c => isBlank c || c == '.') line with
    | date :: time :: level :: word :: words => do
      let timestamp ← need (Timestamp.ofText? (date ++ ' ' :: time))
      build
        { timestamp, level := String.ofList level,
          message := String.ofList (unwords (word :: words)) }
    | _ => failure

def accessWords : List (List Char) → Attempt Record
  | date :: time :: level :: thread :: ip :: request :: _ :: status :: words => do
    let timestamp ← need (Timestamp.ofText? (date ++ ' ' :: time))
    build
      { timestamp,
        level := String.ofList level
        threadId := Entry.threadOf? thread
        sourceIp := Entry.presentWord? ip
        request := Entry.presentWord? request
        statusCode := (int32? status).getD unknownStatus
        message := String.ofList (unwords words) }
  | _ => failure

def access (line : List Char) : Attempt Record := accessWords (words line)

/-- A combined line: one that has the parts of one, with a moment in the brackets. -/
def combined (line : List Char) : Attempt Record := do
  let parts ← need (CombinedParts.find? line)
  let timestamp ← need (Timestamp.ofText? parts.timestamp)
  build
    { timestamp,
      level := String.ofList (trim parts.rest)
      sourceIp := some (String.ofList parts.ip)
      request := some (String.ofList parts.request)
      statusCode := (int32? parts.status).getD unknownStatus
      user := if parts.user = ['-'] then none else some (String.ofList parts.user)
      size := uint64? parts.size }

/-- A line that looks like an access line. -/
def likelyAccess (line : List Char) : Attempt Record :=
  if Entry.looksLikeAccess (words line) then accessWords (words line) else failure

/-- A line whose shape is found by itself: one attempt after the other. -/
def auto (line : List Char) : Attempt Record :=
  combined line <|> likelyAccess line <|> plain line

def ofLine : LineShape → List Char → Attempt Record
  | .plain => plain
  | .access => access
  | .combined => combined
  | .auto => auto

end Attempt

/-! ## Texts -/

/-- The records of the lines so far, and the counts of these lines. -/
structure Gathered where
  records : List Record := []
  stats : TextStats := {}
deriving DecidableEq, Repr

namespace Gathered

/-- Attempts to make a record of one more line. -/
def readLine (attempt : List Char → Attempt Record) (g : Gathered) (line : List Char) :
    StateM IdCounter Gathered := do
  let stats := { g.stats with lines := g.stats.lines + 1 }
  match ← (attempt line).run with
  | some r =>
    return { records := g.records ++ [r], stats := { stats with parsed := stats.parsed + 1 } }
  | none => return { g with stats := { stats with discarded := stats.discarded + 1 } }

/-- Attempts to make records of the lines of a text. -/
def ofText (attempt : List Char → Attempt Record) (text : List Char) (c : IdCounter) :
    Gathered × IdCounter :=
  ((lines text).foldlM (readLine attempt) {} c).run

end Gathered

/-! ## Documents -/

/-- An attempt that says why it failed, whatever it took from the counter before. -/
abbrev DocumentAttempt := ExceptT DocumentError (StateM IdCounter)

namespace DocumentAttempt

/-- What an attempt gives, and the counter that it leaves. -/
def outcome {α : Type} (x : DocumentAttempt α) (c : IdCounter) :
    Except DocumentError α × IdCounter :=
  (x.run c).run

/-- Reads a document and makes its record, if `keep` is set with the identity that the document
names. -/
def ofText (keep : Bool) (text : String) : DocumentAttempt Record := do
  let (e, named) ← ExceptT.mk (pure (Record.readDocument text))
  match named, keep with
  | some n, true =>
    let id ← modifyGet fun c => c.adopt n
    return { e with id }
  | _, _ => modifyGet fun c => c.mint e

end DocumentAttempt

end LogDigest
