import LogDigest.Record.Basic
import LogDigest.Run.Call
import LogDigest.Run.Failure

/-!
# Processing records

Every record is one unit of work. A unit looks at the cancel flag once; if the flag is up the unit
is skipped, otherwise it runs to its end, and it may raise the flag.

**Schedules.** How the units share the workers is a list of steps: a unit looks, a unit runs, the
flag is raised from outside. A step that is not due does nothing, and after the last step the
remaining units look and run in their order. So every list is the schedule of some pool, and the
empty one is that of a single worker.

**Result.** Once all units have looked and run, the outcome is read off in the order of the records:
it does not depend on who worked when, but for which units were skipped.
-/

namespace LogDigest

/-! ## Units -/

/-- How the work on a record ends. -/
inductive UnitEnd where
  | done
  | refused (reason : String)
  /-- In a panic, with its message if it is text. -/
  | panicked (message : Option String)
deriving DecidableEq, Repr

/-- Why the work failed. -/
def UnitEnd.failure? : UnitEnd → Option String
  | done => none
  | refused reason => some reason
  | panicked message => some ("panicked: " ++ message.getD "unknown panic payload")

/-- What the work on a record does. -/
structure UnitCall where
  result : UnitEnd := .done
  /-- Whether it raises the cancel flag. -/
  cancels : Bool := false
  events : List Event := []
deriving DecidableEq, Repr

/-- The work on a record. -/
abbrev Processor := Record → UnitCall

/-- The work that tells the priority of a record. -/
def classify : Processor := fun r =>
  { events := [.classified r.id.value.toNat r.priority r.level r.statusCode.toInt] }

/-! ## Schedules -/

/-- A step of a schedule. Units are numbered in the order of the records. -/
inductive PoolStep where
  /-- A unit looks at the flag. -/
  | look (unit : Nat)
  /-- A unit runs to its end. -/
  | run (unit : Nat)
  /-- The flag is raised from outside. -/
  | raise
deriving DecidableEq, Repr

/-- The steps of a pool. -/
abbrev Schedule := List PoolStep

/-- The steps of a single worker on this many units. -/
def Schedule.inOrder (units : Nat) : Schedule :=
  (List.range units).flatMap fun u => [.look u, .run u]

/-- A pool at work. -/
structure Pool where
  flag : Bool
  /-- The units that saw the flag up. -/
  skipped : List Nat := []
  /-- The units that saw the flag down and have not run yet. -/
  started : List Nat := []
  /-- The units that ran, the first one first. -/
  finished : List Nat := []
  events : List Event := []
deriving DecidableEq, Repr

namespace Pool

def hasLooked (p : Pool) (unit : Nat) : Bool :=
  p.skipped.contains unit || p.started.contains unit || p.finished.contains unit

def step (units : List UnitCall) (p : Pool) : PoolStep → Pool
  | .raise => { p with flag := true }
  | .look u =>
    if units.length ≤ u ∨ p.hasLooked u then p
    else if p.flag then { p with skipped := u :: p.skipped }
    else { p with started := u :: p.started }
  | .run u =>
    if p.started.contains u then
      match units[u]? with
      | none => p
      | some c =>
        { p with
          flag := p.flag || c.cancels
          started := p.started.erase u
          finished := p.finished ++ [u]
          events := p.events ++ c.events }
    else p

/-- Takes the steps of a schedule, and then those that are left. -/
def run (units : List UnitCall) (schedule : Schedule) (flag : Bool) : Pool :=
  (schedule ++ Schedule.inOrder units.length).foldl (step units) { flag }

end Pool

/-! ## Results -/

/-- What processing records did. -/
structure Processed where
  result : Except ProcessError Nat
  flag : Bool
  opening : Event
  unitEvents : List Event
  closing : Event

/-- A record and what the work on it does. -/
structure WorkUnit where
  record : Record
  call : UnitCall
deriving DecidableEq, Repr

/-- The failure of the work on the record, if it fails. -/
def WorkUnit.failure? (w : WorkUnit) : Option UnitFailure :=
  w.call.result.failure?.map fun reason => { record := w.record.id, reason }

/-- The failures of the units that ran, in the order of the records. -/
def unitFailures (finished : List Nat) (units : List WorkUnit) : List UnitFailure :=
  units.zipIdx.filterMap fun (w, u) => if finished.contains u then w.failure? else none

/-- Whether a failure may stand before another one. -/
def UnitFailure.mayPrecede (f g : UnitFailure) : Bool := decide (f.record.value ≤ g.record.value)

/-- Failures in the order of their records' identities. -/
def sortFailures (failures : List UnitFailure) : List UnitFailure :=
  failures.mergeSort UnitFailure.mayPrecede

/-- Does the work on records. -/
def processUnits (schedule : Schedule) (flag : Bool) (units : List WorkUnit) : Processed :=
  let total := units.length
  let pool := Pool.run (units.map (·.call)) schedule flag
  let completed := pool.finished.length
  let failures := sortFailures (unitFailures pool.finished units)
  let (result, closing) : Except ProcessError Nat × Event :=
    if completed < total then
      (.error (.cancelled completed total), .processingCancelled completed total)
    else if failures.isEmpty then (.ok completed, .processingComplete completed)
    else (.error (.unitFailures failures), .unitsFailed failures.length total)
  { result, flag := pool.flag, opening := .processingStarted total, unitEvents := pool.events,
    closing }

def processAll (processor : Processor) (schedule : Schedule) (flag : Bool)
    (records : List Record) : Processed :=
  processUnits schedule flag (records.map fun r => { record := r, call := processor r })

end LogDigest
