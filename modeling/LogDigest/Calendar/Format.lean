import LogDigest.Calendar.Timestamp
import LogDigest.Text.Numeral

/-!
# Written timestamps

The four forms in which timestamps are written. They share the order of the numbers, the widths and
the sign of the year, and differ in the mark between day and time and in the fraction.

A year from 0 to 9999 has four digits and no sign; any other has a sign and at least four digits.
-/

namespace LogDigest

open Text

/-- The year, signed unless it lies between 0 and 9999. -/
def Date.yearText (d : Date) : String :=
  if 0 ≤ d.year ∧ d.year ≤ 9999 then padded 4 d.year.toNat
  else (if d.year < 0 then "-" else "+") ++ padded 4 d.year.natAbs

/-- Year, month and day, joined by hyphens. -/
def Date.text (d : Date) : String :=
  d.yearText ++ "-" ++ padded 2 d.month ++ "-" ++ padded 2 d.day

/-- Hour, minute and second, joined by colons. -/
def Time.text (t : Time) : String :=
  padded 2 t.hour ++ ":" ++ padded 2 t.minute ++ ":" ++ padded 2 t.second

/-- The fraction of the second in three, six or nine digits, the fewest that are exact; nothing for
a whole second. -/
def Time.fraction (t : Time) : String :=
  if t.nano = 0 then ""
  else if t.nano % 1000000 = 0 then "." ++ padded 3 (t.nano / 1000000)
  else if t.nano % 1000 = 0 then "." ++ padded 6 (t.nano / 1000)
  else "." ++ padded 9 t.nano

/-- The milliseconds of the second, cut off and not rounded. -/
def Time.millis (t : Time) : String := "." ++ padded 3 (t.nano / 1000000)

namespace Timestamp

/-- The interchange form: a `T` between day and time, and the shortest exact fraction. -/
def interchange (t : Timestamp) : String :=
  t.date.text ++ "T" ++ t.time.text ++ t.time.fraction

/-- The form in criteria: the shortest exact fraction. -/
def exact (t : Timestamp) : String :=
  t.date.text ++ " " ++ t.time.text ++ t.time.fraction

/-- The form in records: milliseconds. -/
def toMillis (t : Timestamp) : String :=
  t.date.text ++ " " ++ t.time.text ++ t.time.millis

/-- The form in reports: whole seconds. -/
def toSeconds (t : Timestamp) : String :=
  t.date.text ++ " " ++ t.time.text

end Timestamp

end LogDigest
