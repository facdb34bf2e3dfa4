import LogDigest.Summary.LevelCounts
import Std.Data.HashMap

/-!
# Counts of levels with an index

The same counts, with an index that says for every level where its count stands, so that counting
an occurrence looks at one count and not at all of them. Counting fails if the index leads to no
count.
-/

namespace LogDigest

/-- Levels with their counts, and where the count of a level stands. -/
structure IndexedCounts where
  /-- The counts in the order in which the levels came first. -/
  entries : Array (String × Nat) := #[]
  index : Std.HashMap String Nat := {}

namespace IndexedCounts

/-- Counts one more occurrence. -/
def increment? (c : IndexedCounts) (level : String) : Option IndexedCounts :=
  match c.index[level]? with
  | some place =>
    (c.entries[place]?).map fun (l, n) =>
      { c with entries := c.entries.setIfInBounds place (l, n + 1) }
  | none =>
    some
      { entries := c.entries.push (level, 1)
        index := c.index.insert level c.entries.size }

/-- The count of a level, zero if it did not occur. -/
def get? (c : IndexedCounts) (level : String) : Option Nat :=
  match c.index[level]? with
  | some place => (c.entries[place]?).map Prod.snd
  | none => some 0

end IndexedCounts

end LogDigest
