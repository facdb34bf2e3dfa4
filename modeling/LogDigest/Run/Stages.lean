import LogDigest.Filter.Selection
import LogDigest.Line.Attempt
import LogDigest.Run.Pool
import LogDigest.Store.Folder
import LogDigest.Store.Memory
import LogDigest.Summary.Report
import LogDigest.Text.Utf8

/-!
# The replaceable parts of a run

What reads and writes, and what is done in each stage. The standard parts read the shape of lines
that the settings ask for, select by level and criteria, classify, count, and write the report as
text. Three kinds of storage are at hand: memory, folders, and answers that are known beforehand.
Bytes that are no text become replacement characters.

The log of a run may go to the storage too, so that a run whose log file is also its source or its
output finds there what it logged so far. The standard parts keep no log.
-/

namespace LogDigest

/-- What reads lines. It makes the records itself, so it may take identities from the counter or
adopt some. -/
structure LineParser where
  name : String
  parse : List Char → IdCounter → Call Empty (Option Record) × IdCounter

def LineShape.parser (shape : LineShape) : LineParser where
  name := shape.label
  parse line ids :=
    let (record, ids) := (Attempt.ofLine shape line).outcome ids
    (.pure record, ids)

/-- The parts of a run over a storage. -/
structure Stages (σ : Type) where
  read : σ → Path → Call IoError (List Char)
  write : σ → Path → List UInt8 → σ × Call IoError Unit
  log : σ → List Event → σ := fun s _ => s
  clock : Call Empty Timestamp
  /-- Reads lines, whatever the settings say. -/
  parser : Option LineParser := none
  select : FilterSettings → List Record → Call FilterError (List Record) := fun s records =>
    { Call.ofExcept (s.apply records) with events := s.events records }
  /-- Why this many workers cannot be started, if they cannot. -/
  pool : Nat → Option IoError := fun _ => none
  processor : Processor := classify
  /-- Shares the work among the workers. -/
  schedule : Nat → List Record → Schedule := fun _ _ => []
  aggregate : List Record → Call Empty Summary := fun records =>
    let s := Summary.ofRecords records
    { result := .returned s, events := [s.event] }
  render : Summary → Timestamp → Call Empty String := fun s t => .pure (s.reportText t)

namespace Stages

/-- The standard parts over files in memory, at a fixed time. -/
def inMemory (now : Timestamp) : Stages Memory where
  read m path := .ofExcept ((m.read path).map Utf8.lossy)
  write m path bytes :=
    match m.write path bytes with
    | .ok m => (m, .pure ())
    | .error e => (m, { result := .failed e })
  clock := .pure now

/-- The standard parts over files in folders, at a fixed time. -/
def inFolder (now : Timestamp) : Stages Folder where
  read f path := .ofExcept ((f.read path).map Utf8.lossy)
  write f path bytes :=
    match f.write path bytes with
    | .ok f =>
      (f, { result := .returned (), events := [.fileWritten path.text bytes.length] })
    | .error e => (f, { result := .failed e })
  clock := .pure now

/-- The standard parts where the answers of the files are known beforehand, at a fixed time: the
bytes of the log, and for every write, counted from zero, whether it fails. The storage is the
number of writes so far. -/
def answered (now : Timestamp) (log : Except IoError (List UInt8))
    (refusal? : Nat → Option IoError) : Stages Nat where
  read _ _ := .ofExcept (log.map Utf8.lossy)
  write n path bytes :=
    match refusal? n with
    | none =>
      (n + 1, { result := .returned (), events := [.fileWritten path.text bytes.length] })
    | some e => (n + 1, { result := .failed e })
  clock := .pure now

end Stages

end LogDigest
