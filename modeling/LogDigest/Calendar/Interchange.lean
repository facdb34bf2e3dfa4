import LogDigest.Calendar.Pattern

/-!
# The interchange form of timestamps

The reader for the form in which documents carry timestamps. It is wider than what is written:
blanks may stand before every number and mark, and numbers may have fewer digits.
-/

namespace LogDigest

/-- Year, month and day, a capital `T`, hour, minute and second, with an optional fraction. -/
def Pattern.interchange : Pattern :=
  [.number .year, .blanks, .mark ['-'], .number .month, .blanks, .mark ['-'], .number .day, .blanks,
   .mark ['T'], .number .hour, .blanks, .mark [':'], .number .minute, .blanks, .mark [':'],
   .number .second, .fraction, .blanks]

/-- The timestamp of a document, or why there is none. -/
def Timestamp.ofInterchange (s : String) : Except Misread Timestamp :=
  Pattern.interchange.read s.toList

end LogDigest
