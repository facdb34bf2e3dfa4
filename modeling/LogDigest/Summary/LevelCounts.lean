/-!
# Counts of levels

How often each level occurs, in the order in which the levels came first. Levels are told apart as
they are written.
-/

namespace LogDigest

/-- Levels with their counts. -/
structure LevelCounts where
  /-- The counts in the order in which the levels came first. -/
  entries : List (String × Nat) := []
deriving DecidableEq, Repr

namespace LevelCounts

/-- Counts one more occurrence in a list of counts. -/
def bump (level : String) : List (String × Nat) → List (String × Nat)
  | [] => [(level, 1)]
  | (l, n) :: rest => if l = level then (l, n + 1) :: rest else (l, n) :: bump level rest

/-- Counts one more occurrence. -/
def increment (c : LevelCounts) (level : String) : LevelCounts :=
  { entries := bump level c.entries }

/-- The count of a level, zero if it did not occur. -/
def get (c : LevelCounts) (level : String) : Nat := (c.entries.lookup level).getD 0

/-- The number of different levels. -/
def size (c : LevelCounts) : Nat := c.entries.length

/-- Whether nothing was counted. -/
def isEmpty (c : LevelCounts) : Bool := c.entries.isEmpty

end LevelCounts

end LogDigest
