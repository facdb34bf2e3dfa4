import LogDigest.Calendar.Format
import LogDigest.Summary.Basic

/-!
# Reports

The text of a summary: when it was made, the time range, the totals of errors and warnings, and a
line for every level in the order in which the levels came first. Times are shown to the second.
-/

namespace LogDigest

/-- A summary with its text. -/
structure Report where
  summary : Summary
  generatedAt : Timestamp
  body : String
deriving DecidableEq, Repr

namespace Summary

/-- The line about the time range. -/
def rangeLine (s : Summary) : String :=
  match s.range with
  | some r => "Time Range: from " ++ r.earliest.toSeconds ++ " to " ++ r.latest.toSeconds
  | none => "Time Range: No logs available"

/-- The lines of a report made at this time. -/
def reportLines (s : Summary) (generatedAt : Timestamp) : List String :=
  ["Log Analysis Report as of " ++ generatedAt.toSeconds,
   s.rangeLine,
   s!"Total Errors: {s.errors}",
   s!"Total Warnings: {s.warnings}",
   "Log Level Distribution:"] ++
  s.levels.entries.map fun (level, count) => s!"- {level}: {count}"

/-- The text of a report made at this time. -/
def reportText (s : Summary) (generatedAt : Timestamp) : String :=
  String.join ((s.reportLines generatedAt).map (· ++ "\n"))

end Summary

end LogDigest
