import LogDigest.Calendar.Pattern

/-!
# Timestamps of log files

Log files write moments in many ways. `Timestamp.ofText?` tries thirteen patterns in a fixed order
and takes the first that reads the trimmed text: the interchange standard with an offset, the common
log form with an offset, three year-first forms, five forms with slashes or points, and three bare
dates. Offsets are removed; all other forms are taken as they stand.

The year-first forms read the text after `yearFirst` has made its separators uniform.
-/

namespace LogDigest

open Text

/-! ## Uniform separators -/

/-- Replaces the first `n` occurrences of a character. -/
def replaceFirst (n : Nat) (old new : Char) : List Char → List Char
  | [] => []
  | c :: s =>
    match n with
    | 0 => c :: s
    | n + 1 => if c = old then new :: replaceFirst n old new s
      else c :: replaceFirst (n + 1) old new s

/-- Whether the text opens with four digits and a hyphen or slash. -/
def opensWithYear : List Char → Bool
  | a :: b :: c :: d :: mark :: _ =>
    a.isDigit && b.isDigit && c.isDigit && d.isDigit && (mark == '-' || mark == '/')
  | _ => false

/-- Makes the separators of a text that opens with a year uniform: hyphens in the date, a space
before the time and a point before the fraction. -/
def yearFirst (s : List Char) : List Char :=
  if opensWithYear s then
    (replaceFirst 1 'T' ' ' (replaceFirst 2 '/' '-' s)).map fun c => if c = ',' then '.' else c
  else s

/-! ## The patterns -/

namespace Pattern

/-- A date in numbers, in the order given, with one mark between them. -/
def dateBy (mark : Char) (a b c : TimeUnit) : Pattern :=
  [.number a, .mark [mark], .number b, .mark [mark], .number c]

/-- Hour, minute and second. -/
def clock : Pattern :=
  [.number .hour, .mark [':'], .number .minute, .mark [':'], .number .second]

/-- The interchange standard: fixed widths and an offset, `2024-01-15T14:30:22.5+01:00`. -/
def standard : Pattern :=
  [.digits .year 4, .mark ['-'], .digits .month 2, .mark ['-'], .digits .day 2,
   .mark ['T', 't', ' '], .digits .hour 2, .mark [':'], .digits .minute 2, .mark [':'],
   .digits .second 2, .fraction, .zone]

/-- The common log form, `10/Oct/2000:13:55:36 -0700`. -/
def commonLog : Pattern :=
  [.number .day, .mark ['/'], .monthName, .mark ['/'], .number .year, .mark [':']] ++ clock ++
    [.blanks, .offset]

def yearFirstFraction : Pattern :=
  dateBy '-' .year .month .day ++ [.blanks] ++ clock ++ [.fraction]

def yearFirstSecond : Pattern := dateBy '-' .year .month .day ++ [.blanks] ++ clock

def yearFirstMinute : Pattern :=
  dateBy '-' .year .month .day ++ [.blanks, .number .hour, .mark [':'], .number .minute]

def monthFirst : Pattern := dateBy '/' .month .day .year ++ [.blanks] ++ clock

def dayFirst : Pattern := dateBy '/' .day .month .year ++ [.blanks] ++ clock

/-- Month first with slashes, on the clock of twelve hours. -/
def monthFirstHalfDay : Pattern :=
  dateBy '/' .month .day .year ++
    [.blanks, .number .halfDayHour, .mark [':'], .number .minute, .mark [':'], .number .second,
     .blanks, .halfDay]

/-- Day first with points, and a fraction. -/
def pointedFraction : Pattern :=
  dateBy '.' .day .month .year ++ [.blanks] ++ clock ++ [.fraction]

/-- Day first with points, to the second. -/
def pointedSecond : Pattern := dateBy '.' .day .month .year ++ [.blanks] ++ clock

def yearFirstDate : Pattern := dateBy '-' .year .month .day

def monthFirstDate : Pattern := dateBy '/' .month .day .year

def dayFirstDate : Pattern := dateBy '/' .day .month .year

end Pattern

/-! ## The forms in their order -/

/-- A pattern, and whether it reads the text with uniform separators. -/
structure StampForm where
  pattern : Pattern
  /-- Whether separators are made uniform first. -/
  uniform : Bool := false

namespace StampForm

/-- Reads a trimmed text. -/
def read? (form : StampForm) (s : List Char) : Option Timestamp :=
  (form.pattern.read (if form.uniform then yearFirst s else s)).toOption

/-- The forms of log files in the order in which they are tried. A month-first form stands before
the day-first form of its kind, so an ambiguous date is read month first. -/
def all : List StampForm :=
  [{ pattern := .standard },
   { pattern := .commonLog },
   { pattern := .yearFirstFraction, uniform := true },
   { pattern := .yearFirstSecond, uniform := true },
   { pattern := .yearFirstMinute, uniform := true },
   { pattern := .monthFirst },
   { pattern := .dayFirst },
   { pattern := .monthFirstHalfDay },
   { pattern := .pointedFraction },
   { pattern := .pointedSecond },
   { pattern := .yearFirstDate },
   { pattern := .monthFirstDate },
   { pattern := .dayFirstDate }]

end StampForm

/-- The moment that a text of a log file names. -/
def Timestamp.ofText? (s : List Char) : Option Timestamp :=
  StampForm.all.findSome? fun form => form.read? (trim s)

end LogDigest
