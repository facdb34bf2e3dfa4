import LogDigest.Calendar.Date

/-!
# Points in time

A `Timestamp` is a day and a time of that day, in nanoseconds, without a time zone. A time of day is
a second and the nanoseconds beyond it; a billion nanoseconds and more lie in a leap second, which
follows that second and may follow any second of the day. A clock shows a leap second as the next
second, so behind second 59 it shows second 60, and elsewhere a second that is one of its own.

Timestamps are ordered by their numbers, the largest unit first. `Timestamp.minus` is the signed
distance in nanoseconds; there a leap second takes a second of its own when it lies between the two
times of day, and otherwise prolongs the second that it follows.
-/

namespace LogDigest

/-- A time of day. -/
structure Time where
  /-- The number of whole seconds since midnight; a leap second counts as the one before it. -/
  secondOfDay : Nat
  /-- The nanoseconds beyond that second, one billion or more in a leap second. -/
  nanosBeyond : Nat
  secondOfDay_lt : secondOfDay < 86400
  nanosBeyond_lt : nanosBeyond < 2000000000
deriving DecidableEq, Repr

namespace Time

/-! ## The numbers on a clock -/

variable (t : Time)

def hour : Nat := t.secondOfDay / 3600

def minute : Nat := t.secondOfDay / 60 % 60

/-- The second, from 0 to 59, or 60 for a leap second behind second 59. -/
def second : Nat := t.secondOfDay % 60 + t.nanosBeyond / 1000000000

def nano : Nat := t.nanosBeyond % 1000000000

theorem hour_lt : t.hour < 24 := by
  have hsecond := t.secondOfDay_lt
  rw [hour]
  omega

theorem minute_lt : t.minute < 60 := Nat.mod_lt _ (by decide)

theorem second_le : t.second ≤ 60 := by
  have hnanos := t.nanosBeyond_lt
  rw [second]
  omega

theorem nano_lt : t.nano < 1000000000 := Nat.mod_lt _ (by decide)

/-- The time with these numbers on a clock, if a day has it. -/
def ofHms? (hour minute second nano : Nat) : Option Time :=
  if h : hour < 24 ∧ minute < 60 ∧ second ≤ 60 ∧ nano < 1000000000 then
    some
      { secondOfDay := hour * 3600 + minute * 60 + min second 59
        nanosBeyond := nano + if second = 60 then 1000000000 else 0
        secondOfDay_lt := by omega
        nanosBeyond_lt := by split <;> omega }
  else
    none

def midnight : Time where
  secondOfDay := 0
  nanosBeyond := 0
  secondOfDay_lt := by decide
  nanosBeyond_lt := by decide

/-- The time at another second, which is taken up to whole days. The nanoseconds, those of a leap
second included, stay as they are. -/
def atSecond (t : Time) (s : Int) : Time where
  secondOfDay := (s % 86400).toNat
  nanosBeyond := t.nanosBeyond
  secondOfDay_lt := by omega
  nanosBeyond_lt := t.nanosBeyond_lt

/-- Whether the time lies in a leap second. -/
def IsLeap : Prop := 1000000000 ≤ t.nanosBeyond

instance : Decidable t.IsLeap := inferInstanceAs (Decidable (1000000000 ≤ t.nanosBeyond))

/-- The signed distance between two times of one day, in nanoseconds. -/
def minus (t u : Time) : Int :=
  let leaps : Int :=
    if u.secondOfDay < t.secondOfDay ∧ u.IsLeap then 1
    else if t.secondOfDay < u.secondOfDay ∧ t.IsLeap then -1
    else 0
  ((t.secondOfDay : Int) - u.secondOfDay + leaps) * 1000000000 +
    ((t.nanosBeyond : Int) - u.nanosBeyond)

end Time

/-- The day on which a second lies that is counted from midnight of a day and is less than a day
outside of it. -/
def Date.atSecond? (d : Date) (s : Int) : Option Date :=
  if s < 0 then d.pred? else if 86400 ≤ s then d.succ? else some d

/-- A day and a time of that day. -/
structure Timestamp where
  date : Date
  time : Time
deriving DecidableEq, Repr

namespace Timestamp

/-- The numbers of a timestamp, the largest unit first. -/
def units (t : Timestamp) : List Int :=
  [t.date.year, t.date.month, t.date.day, t.time.secondOfDay, t.time.nanosBeyond]

/-- Timestamps are ordered by their numbers, the largest unit first. -/
instance : LT Timestamp where
  lt t u := t.units < u.units

instance : LE Timestamp where
  le t u := ¬ u.units < t.units

instance (t u : Timestamp) : Decidable (t < u) := inferInstanceAs (Decidable (t.units < u.units))

instance (t u : Timestamp) : Decidable (t ≤ u) := inferInstanceAs (Decidable (¬ u.units < t.units))

instance : Min Timestamp where
  min t u := if t ≤ u then t else u

instance : Max Timestamp where
  max t u := if t ≤ u then u else t

/-- The signed distance from `u` to `t`, in nanoseconds. -/
def minus (t u : Timestamp) : Int :=
  (t.date.dayNumber - u.date.dayNumber) * 86400000000000 + t.time.minus u.time

/-- The distance between two timestamps, in nanoseconds. -/
def distance (t u : Timestamp) : Nat := (t.minus u).natAbs

/-- The timestamp `minutes` earlier, for less than a day either way; `none` beyond the ends of the
calendar. -/
def earlierBy? (t : Timestamp) (minutes : Int) : Option Timestamp :=
  let s : Int := t.time.secondOfDay - minutes * 60
  (t.date.atSecond? s).map fun date => { date, time := t.time.atSecond s }

end Timestamp

end LogDigest
