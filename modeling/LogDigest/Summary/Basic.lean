import LogDigest.Event
import LogDigest.Record.Basic
import LogDigest.Summary.LevelCounts

/-!
# Summaries

What records have in common: how many there are, how often each level occurs, and the time range
they cover. Errors and warnings are the records whose level is exactly `Error` or `Warning`.
-/

namespace LogDigest

/-- The time between the earliest and the latest of some records. -/
structure TimeRange where
  earliest : Timestamp
  latest : Timestamp
deriving DecidableEq, Repr

/-- Widens a range, as far as needed, to cover a timestamp. -/
def TimeRange.widen (r : TimeRange) (t : Timestamp) : TimeRange where
  earliest := min r.earliest t
  latest := max r.latest t

/-- The summary of some records. -/
structure Summary where
  total : Nat := 0
  levels : LevelCounts := {}
  /-- The time they cover, if there are any. -/
  range : Option TimeRange := none
deriving DecidableEq, Repr

namespace Summary

def add (s : Summary) (r : Record) : Summary where
  total := s.total + 1
  levels := s.levels.increment r.level
  range := some <|
    match s.range with
    | some range => range.widen r.timestamp
    | none => { earliest := r.timestamp, latest := r.timestamp }

def ofRecords (records : List Record) : Summary := records.foldl add {}

def errorLevel : String := "Error"

def warningLevel : String := "Warning"

def errors (s : Summary) : Nat := s.levels.get errorLevel

def warnings (s : Summary) : Nat := s.levels.get warningLevel

/-- Whether there is any record. -/
def hasData (s : Summary) : Bool := s.range.isSome

def earliest? (s : Summary) : Option Timestamp := s.range.map (·.earliest)

def latest? (s : Summary) : Option Timestamp := s.range.map (·.latest)

def event (s : Summary) : Event := .aggregated s.total s.levels.size s.errors s.warnings

end Summary

end LogDigest
