import LogDigest.Text.Blank
import LogDigest.Text.Case

/-!
# Severities and priorities

The level of a log record is free text. Four levels are known severities, in ascending order; a
level names one regardless of letter case and surrounding blanks. The priority of a record looks at
its level as it stands and knows two of them.
-/

namespace LogDigest

open Text

/-- The known severities. -/
inductive Severity where
  | debug
  | info
  | warning
  | error
deriving DecidableEq, Repr

namespace Severity

/-- The severities in ascending order. -/
def all : List Severity := [.debug, .info, .warning, .error]

def label : Severity → String
  | debug => "Debug"
  | info => "Info"
  | warning => "Warning"
  | error => "Error"

/-- The place of a severity in the ascending order. -/
def rank : Severity → Nat
  | debug => 0
  | info => 1
  | warning => 2
  | error => 3

instance : LE Severity where
  le s t := s.rank ≤ t.rank

instance (s t : Severity) : Decidable (s ≤ t) := inferInstanceAs (Decidable (s.rank ≤ t.rank))

def ofLevel? (level : String) : Option Severity :=
  all.find? fun s => sameLetters s.label (String.ofList (trim level.toList))

end Severity

/-- How urgent a record is. -/
inductive Priority where
  /-- An error. -/
  | high
  /-- A warning. -/
  | medium
  /-- Everything else. -/
  | low
deriving DecidableEq, Repr

namespace Priority

def ofLevel (level : String) : Priority :=
  if sameLetters level "error" then .high
  else if sameLetters level "warning" then .medium
  else .low

def label : Priority → String
  | high => "High"
  | medium => "Medium"
  | low => "Low"

end Priority

end LogDigest
