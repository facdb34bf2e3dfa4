import LogDigest.Run.Failure

/-!
# The way down a failure

Every kind of failure knows the one right below it (`Failure.cause?`). From a failed run this leads
through failures of the program, and it may end at an error of something outside. What is behind
such an error is up to where it comes from.
-/

namespace LogDigest

/-- An error of something outside the program. -/
inductive OutsideError where
  /-- Of files and writers. -/
  | io (e : IoError)
  /-- Of the writer of tables. -/
  | csv (e : IoError)
  /-- Of the writer of documents. -/
  | json (e : IoError)
  /-- Of the reader of configuration files. -/
  | toml (e : TomlError)
  /-- Of what starts the workers. -/
  | pool (e : IoError)
deriving DecidableEq, Repr

def OutsideError.message : OutsideError → String
  | io e | csv e | json e | pool e => e.message
  | toml e => e.message

/-- A failure on the way from a failed run to its root. -/
inductive Failure where
  | run (e : AnalysisError)
  | cause (c : Cause)
  | config (e : ConfigError)
  | source (e : SourceError)
  | filter (e : FilterError)
  | process (e : ProcessError)
  | sink (e : SinkError)
  | exported (e : ExportError)
  | outside (e : OutsideError)
deriving DecidableEq, Repr

namespace Failure

def message : Failure → String
  | run e => e.message
  | cause c => c.message
  | config e => e.message
  | source e => e.message
  | filter e => e.message
  | process e => e.message
  | sink e => e.message
  | exported e => e.message
  | outside e => e.message

/-- The failure right below. -/
def cause? : Failure → Option Failure
  | run e => some (cause e.cause)
  | cause (.config e) => some (config e)
  | cause (.source e) => some (source e)
  | cause (.filter e) => some (filter e)
  | cause (.process e) => some (process e)
  | cause (.sink e) => some (sink e)
  | cause (.exported e) => some (exported e)
  | config (.malformed _ e) => some (outside (.toml e))
  | config (.io _ e) => some (outside (.io e))
  | config (.missing _) | config (.invalid ..) => none
  | source (.io _ e) => some (outside (.io e))
  | source .missingPath | source .cancelled => none
  | filter _ => none
  | process (.threadPool _ e) => some (outside (.pool e))
  | process (.unitFailures _) | process (.cancelled ..) => none
  | sink e => some (outside (.io e.cause))
  | exported (.io _ e) => some (outside (.io e))
  | exported (.csv _ e) => some (outside (.csv e))
  | exported (.json _ e) => some (outside (.json e))
  | exported (.unsupported _) => none
  | outside _ => none

/-- How many failures may be below. -/
def height : Failure → Nat
  | run _ => 3
  | cause _ => 2
  | outside _ => 0
  | _ => 1

theorem height_lt_of_cause? {e c : Failure} (h : e.cause? = some c) : c.height < e.height := by
  unfold cause? at h
  split at h <;> cases h <;> simp [height]

def trail (e : Failure) : List Failure :=
  match _ : e.cause? with
  | none => [e]
  | some c => e :: c.trail
termination_by e.height
decreasing_by exact height_lt_of_cause? ‹_›

/-- What is behind a failure that the program knows nothing below of. -/
def beyond (behind : OutsideError → List String) : Failure → List String
  | outside e => behind e
  | _ => []

/-- The texts from this failure down, with those behind an error of something outside. -/
def texts (behind : OutsideError → List String) (e : Failure) : List String :=
  e.trail.flatMap fun f => f.message :: f.beyond behind

end Failure

end LogDigest
