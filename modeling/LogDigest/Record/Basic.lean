import LogDigest.Calendar.Format
import LogDigest.Calendar.Span
import LogDigest.Record.Severity
import LogDigest.Text.Utf8
import Std.Data.HashSet

/-!
# Log records

An `Entry` is what a log line says; a `Record` is an entry with an identity. Two records are equal
when both agree, and have the same content when all fields but the identity do. Contents are
compared and hashed through a `ContentKey`, which lists these fields.

Identities come from a counter of 64 bits that wraps around. A record either takes the next number
or adopts a number from a document, which lifts the counter beyond it as far as 64 bits allow.
-/

namespace LogDigest

open Text

/-! ## Entries -/

/-- The status code of an entry whose status is not known. -/
def unknownStatus : Int32 := -1

/-- What a log line says. -/
structure Entry where
  timestamp : Timestamp
  /-- The level, as it was written. -/
  level : String
  message : String := ""
  sourceIp : Option String := none
  request : Option String := none
  statusCode : Int32 := unknownStatus
  threadId : Option Int64 := none
  source : Option String := none
  user : Option String := none
  size : Option UInt64 := none
deriving DecidableEq, Repr

namespace Entry

/-- The severity that the level names. -/
def severity? (e : Entry) : Option Severity := Severity.ofLevel? e.level

/-- Whether the level says error. -/
def isError (e : Entry) : Bool := sameLetters e.level "error"

/-- The priority that the level asks for. -/
def priority (e : Entry) : Priority := Priority.ofLevel e.level

/-- The line of an entry: time, level, thread, address, request, status and message, with marks for
what is absent, and without trailing blanks. -/
def line (e : Entry) : String :=
  let thread := match e.threadId with
    | some n => toString n.toInt
    | none => "?"
  let text := e.timestamp.toMillis ++ " " ++ e.level ++ " [Thread-" ++ thread ++ "] " ++
    e.sourceIp.getD "-" ++ " " ++ e.request.getD "-" ++ " - " ++ toString e.statusCode.toInt ++
    " " ++ e.message
  String.ofList (trimRight text.toList)

/-- The distance in time between two entries, in nanoseconds. -/
def timeBetween (e f : Entry) : Nat := e.timestamp.distance f.timestamp

/-- The distance in time between two entries as a span, if it is not too long for one. -/
def spanBetween? (e f : Entry) : Option Span := e.timestamp.apart? f.timestamp

end Entry

/-! ## Records -/

/-- The identity of a record. -/
structure RecordId where
  value : UInt64
deriving DecidableEq, Repr

/-- An identity as it is shown. -/
def RecordId.text (id : RecordId) : String := "#" ++ toString id.value.toNat

/-- An entry with an identity. -/
structure Record extends Entry where
  id : RecordId
deriving DecidableEq, Repr

/-- The counter of identities. -/
structure IdCounter where
  /-- The number of the next fresh identity. -/
  next : UInt64 := 1
deriving DecidableEq, Repr

namespace IdCounter

/-- Takes the next number. -/
def fresh (c : IdCounter) : RecordId × IdCounter := (⟨c.next⟩, ⟨c.next + 1⟩)

/-- Adopts a number and lifts the counter beyond it, at most to the largest number. -/
def adopt (c : IdCounter) (n : UInt64) : RecordId × IdCounter :=
  let beyond := if n = 18446744073709551615 then n else n + 1
  (⟨n⟩, ⟨if c.next < beyond then beyond else c.next⟩)

/-- Gives an entry the next identity. -/
def mint (c : IdCounter) (e : Entry) : Record × IdCounter :=
  let (id, c) := c.fresh
  ({ e with id }, c)

/-- Gives entries the next identities in their order. -/
def mintAll (c : IdCounter) : List Entry → List Record × IdCounter
  | [] => ([], c)
  | e :: es =>
    let (r, c) := c.mint e
    let (rs, c) := c.mintAll es
    (r :: rs, c)

end IdCounter

/-! ## Hashing -/

/-- What a hasher is fed with at a time. -/
inductive HashWord where
  | number (n : Int)
  | bytes (bs : List UInt8)
deriving DecidableEq, Hashable, Repr

namespace HashWord

/-- A timestamp feeds its numbers. -/
def ofTimestamp (t : Timestamp) : List HashWord := t.units.map number

/-- A text feeds its bytes, and a mark behind them that no text contains. -/
def ofText (s : String) : List HashWord := [bytes (Utf8.encode s.toList), number 255]

/-- A value that may be absent feeds whether it is there, and then itself. -/
def ofOption {α : Type} (feed : α → List HashWord) : Option α → List HashWord
  | none => [number 0]
  | some a => number 1 :: feed a

end HashWord

/-! ## Contents -/

/-- A record by its content. -/
structure ContentKey where
  record : Record

namespace ContentKey

/-- All fields but the identity. -/
def fields (k : ContentKey) :
    Timestamp × String × String × Option String × Option String × Int32 × Option Int64 ×
      Option String × Option String × Option UInt64 :=
  let r := k.record
  (r.timestamp, r.level, r.message, r.sourceIp, r.request, r.statusCode, r.threadId, r.source,
   r.user, r.size)

instance : BEq ContentKey where
  beq k l := k.fields == l.fields

/-- What a content feeds a hasher with. -/
def fed (k : ContentKey) : List HashWord :=
  let (timestamp, level, message, sourceIp, request, statusCode, threadId, source, user, size) :=
    k.fields
  HashWord.ofTimestamp timestamp ++ HashWord.ofText level ++ HashWord.ofText message ++
    HashWord.ofOption HashWord.ofText sourceIp ++ HashWord.ofOption HashWord.ofText request ++
    [.number statusCode.toInt] ++ HashWord.ofOption (fun n => [.number n.toInt]) threadId ++
    HashWord.ofOption HashWord.ofText source ++ HashWord.ofOption HashWord.ofText user ++
    HashWord.ofOption (fun n => [.number n.toNat]) size

instance : Hashable ContentKey where
  hash k := hash k.fed

end ContentKey

namespace Record

/-- What a record feeds a hasher with. -/
def fed (r : Record) : List HashWord := .number r.id.value.toNat :: (ContentKey.mk r).fed

/-- Whether two records say the same. -/
def sameContent (r s : Record) : Bool := ContentKey.mk r == ContentKey.mk s

/-- For every record, whether it says something that neither `seen` nor an earlier one says. -/
def newFlags (seen : Std.HashSet ContentKey) : List Record → List Bool
  | [] => []
  | r :: rs =>
    let (known, seen) := seen.containsThenInsert ⟨r⟩
    (!known) :: newFlags seen rs

/-- The records that say something no earlier one says. -/
def dedup (records : List Record) : List Record :=
  (records.zip (newFlags ∅ records)).filterMap fun (r, new) => if new then some r else none

end Record

end LogDigest
