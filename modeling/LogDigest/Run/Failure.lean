import LogDigest.Export.Format
import LogDigest.Filter.Criterion
import LogDigest.Settings.Error

/-!
# Stages and failures of a run

A run goes through five stages. A failure names the stage in which it arose and its cause; `chain`
lists the texts from the failure down to the root, and every text but the last ends in the next one.
-/

namespace LogDigest

/-! ## Stages -/

/-- A stage of a run. -/
inductive Stage where
  | reading
  | filtering
  | processing
  | reporting
  | persisting
deriving DecidableEq, Repr

namespace Stage

def all : List Stage := [.reading, .filtering, .processing, .reporting, .persisting]

def label : Stage → String
  | reading => "reading"
  | filtering => "filtering"
  | processing => "processing"
  | reporting => "reporting"
  | persisting => "persisting"

def name : Stage → String
  | reading => "Reading"
  | filtering => "Filtering"
  | processing => "Processing"
  | reporting => "Reporting"
  | persisting => "Persisting"

end Stage

/-- Where a run is. -/
inductive RunState where
  | idle
  | active (s : Stage)
  | done
  | failed (s : Stage)
deriving DecidableEq, Repr

namespace RunState

def name : RunState → String
  | idle => "Idle"
  | active s => s.name
  | done => "Done"
  | failed s => "Failed(" ++ s.name ++ ")"

/-- The stage that is under way. -/
def stage? : RunState → Option Stage
  | active s => some s
  | _ => none

end RunState

/-! ## Causes -/

/-- Why the log could not be read. -/
inductive SourceError where
  | missingPath
  | io (path : Path) (cause : IoError)
  | cancelled
deriving DecidableEq, Repr

/-- The failure in words. -/
def SourceError.message : SourceError → String
  | missingPath => "Log source path cannot be empty"
  | io path cause => "Error reading log file '" ++ path.text ++ "': " ++ cause.message
  | cancelled => "Reading was cancelled"

/-- The failure and its causes in words. -/
def SourceError.chain (e : SourceError) : List String :=
  e.message ::
    match e with
    | io _ cause => [cause.message]
    | missingPath | cancelled => []

/-- The failure of the work on one record. -/
structure UnitFailure where
  record : RecordId
  reason : String
deriving DecidableEq, Repr

/-- Why the records could not be processed. -/
inductive ProcessError where
  /-- The work on some records failed. -/
  | unitFailures (failures : List UnitFailure)
  /-- Some records were skipped. -/
  | cancelled (completed total : Nat)
  /-- The workers could not be started. -/
  | threadPool (workers : Nat) (cause : IoError)
deriving DecidableEq, Repr

def ProcessError.message : ProcessError → String
  | unitFailures failures =>
    s!"{failures.length} processing unit(s) failed" ++
      String.join (failures.map fun f => "; record " ++ f.record.text ++ ": " ++ f.reason)
  | cancelled completed total => s!"Processing cancelled after {completed} of {total} records"
  | threadPool workers cause =>
    s!"Failed to build a pool of {workers} worker threads: " ++ cause.message

/-- The failure and its causes in words. What starts the workers says what the system says. -/
def ProcessError.chain (e : ProcessError) : List String :=
  e.message ::
    match e with
    | unitFailures _ | cancelled .. => []
    | threadPool _ cause => [cause.message, cause.message]

/-- The report could not be saved. -/
structure SinkError where
  path : Path
  cause : IoError
deriving DecidableEq, Repr

/-- The failure in words. -/
def SinkError.message (e : SinkError) : String :=
  "Failed to save report to '" ++ e.path.text ++ "': " ++ e.cause.message

/-- The cause of a failed run. -/
inductive Cause where
  | config (e : ConfigError)
  | source (e : SourceError)
  | filter (e : FilterError)
  | process (e : ProcessError)
  | sink (e : SinkError)
  | exported (e : ExportError)
deriving DecidableEq, Repr

namespace Cause

def below : Cause → List String
  | config e => e.chain
  | source e => e.chain
  | filter e => [e.message]
  | process e => e.chain
  | sink e => [e.message, e.cause.message]
  | exported e => e.chain

def message : Cause → String
  | config e => "Configuration error: " ++ e.message
  | source e => "Source error: " ++ e.message
  | filter e => "Filter error: " ++ e.message
  | process e => "Processing error: " ++ e.message
  | sink e => "Sink error: " ++ e.message
  | exported e => "Export error: " ++ e.message

end Cause

/-- Why a run failed. -/
structure AnalysisError where
  stage : Stage
  cause : Cause
deriving DecidableEq, Repr

namespace AnalysisError

/-- The failure in words. -/
def message (e : AnalysisError) : String :=
  "Analysis failed during " ++ e.stage.label ++ " stage: " ++ e.cause.message

/-- The failure and its causes in words. -/
def chain (e : AnalysisError) : List String := e.message :: e.cause.message :: e.cause.below

end AnalysisError

end LogDigest
