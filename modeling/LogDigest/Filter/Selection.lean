import LogDigest.Filter.Compiled

/-!
# Selecting records

A selection keeps the records whose level is a known severity, at least the minimum, and that meet
the filter. A level that is no known severity either drops the record or, under the strict policy,
fails the whole selection at the first such record. The filter text is compiled before any record is
looked at, and all levels are looked at before the filter.
-/

namespace LogDigest

open Text

/-- What to do with a level that is no known severity. -/
inductive LevelPolicy where
  /-- Drop the record. -/
  | tolerant
  /-- Fail. -/
  | strict
deriving DecidableEq, Repr

namespace LevelPolicy

def label : LevelPolicy → String
  | tolerant => "tolerant"
  | strict => "strict"

/-- The policy that a setting names. -/
def ofText (s : String) : Except String LevelPolicy :=
  let name := lower (String.ofList (trim s.toList))
  if name = "tolerant" then .ok .tolerant
  else if name = "strict" then .ok .strict
  else .error s!"unknown level policy '{name}'"

end LevelPolicy

/-- The least severity to keep, and what to do with unknown levels. -/
structure Threshold where
  minimum : Severity := .info
  policy : LevelPolicy := .tolerant
deriving DecidableEq, Repr

def Threshold.admits (t : Threshold) (r : Record) : Except FilterError Bool :=
  match r.severity? with
  | some s => .ok (decide (t.minimum ≤ s))
  | none =>
    match t.policy with
    | .tolerant => .ok false
    | .strict => .error (.unknownLevel r.level r.id)

/-- The records that reach the threshold, up to the first that fails it. -/
def Threshold.select (t : Threshold) : List Record → Except FilterError (List Record)
  | [] => .ok []
  | r :: rs =>
    match t.admits r with
    | .error e => .error e
    | .ok true => (t.select rs).map (r :: ·)
    | .ok false => t.select rs

/-- Which records to keep. -/
structure FilterSettings where
  threshold : Threshold := {}
  /-- The filter text. -/
  criteria : String := ""
  connectives : Connectives := .legacy
deriving DecidableEq, Repr

namespace FilterSettings

/-- Keeps the records that the settings ask for. -/
def apply (s : FilterSettings) (records : List Record) : Except FilterError (List Record) :=
  match CompiledFilter.ofText s.connectives s.criteria with
  | .error e => .error e
  | .ok f => (s.threshold.select records).map f.retain

/-- The events about a selection: none if the filter text fails, and only the first if a level
does. -/
def events (s : FilterSettings) (records : List Record) : List Event :=
  match CompiledFilter.ofText s.connectives s.criteria with
  | .error _ => []
  | .ok f =>
    f.event s.connectives s.criteria ::
      match s.threshold.select records with
      | .error _ => []
      | .ok kept =>
        [.filterApplied records.length kept.length (f.retain kept).length
          s.threshold.minimum.label s.threshold.policy.label]

end FilterSettings

end LogDigest
