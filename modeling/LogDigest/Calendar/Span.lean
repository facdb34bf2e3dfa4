import LogDigest.Calendar.Timestamp

/-!
# Spans of time

A `Span` is a number of whole seconds and the nanoseconds beyond them, so a span backwards has a
negative number of seconds from which the nanoseconds lead forward again. A span is at most
`2^63 - 1` milliseconds long, either way; what would be longer is refused.

The span between two timestamps is put together from the span between their days and the span
between their times of day. Each of the two may be refused, and so may their sum.
-/

namespace LogDigest

/-- The length of the longest span, in nanoseconds. -/
def longestSpan : Nat := 9223372036854775807 * 1000000

/-- A span of time. -/
structure Span where
  seconds : Int
  /-- The nanoseconds beyond the seconds. -/
  nanos : Nat
  nanos_lt : nanos < 1000000000
  le_longest : (seconds * 1000000000 + nanos).natAbs ≤ longestSpan
deriving Repr

namespace Span

def total (s : Span) : Int := s.seconds * 1000000000 + s.nanos

/-- The span of these numbers, if there is one. -/
def ofParts? (seconds : Int) (nanos : Nat) : Option Span :=
  if h : nanos < 1000000000 ∧ (seconds * 1000000000 + nanos).natAbs ≤ longestSpan then
    some { seconds, nanos, nanos_lt := h.1, le_longest := h.2 }
  else
    none

/-- The span of so many days. -/
def ofDays? (days : Int) : Option Span := ofParts? (days * 86400) 0

/-- The span of so many nanoseconds. -/
def ofNanos? (n : Int) : Option Span := ofParts? (n / 1000000000) (n % 1000000000).toNat

/-- The sum of two spans. Nanoseconds that make up a second are carried. -/
def add? (s t : Span) : Option Span :=
  if s.nanos + t.nanos < 1000000000 then ofParts? (s.seconds + t.seconds) (s.nanos + t.nanos)
  else ofParts? (s.seconds + t.seconds + 1) (s.nanos + t.nanos - 1000000000)

/-- The same span the other way. -/
def neg (s : Span) : Span where
  seconds := if s.nanos = 0 then -s.seconds else -s.seconds - 1
  nanos := if s.nanos = 0 then 0 else 1000000000 - s.nanos
  nanos_lt := by split <;> omega
  le_longest := by
    have hnanos := s.nanos_lt
    have hlongest := s.le_longest
    split <;> omega

def abs (s : Span) : Span := if s.seconds < 0 then s.neg else s

end Span

namespace Timestamp

/-- The span from `u` to `t`. -/
def since? (t u : Timestamp) : Option Span := do
  let days ← Span.ofDays? (t.date.dayNumber - u.date.dayNumber)
  let clock ← Span.ofNanos? (t.time.minus u.time)
  days.add? clock

/-- The span between two timestamps, whichever of them comes first. -/
def apart? (t u : Timestamp) : Option Span := (t.since? u).map Span.abs

end Timestamp

end LogDigest
