import LogDigest.Calendar.Timestamp
import LogDigest.Text.Blank

/-!
# Date-time patterns

A pattern is a list of items, and reading a text by a pattern is reading its items one after the
other until the text is used up. Every item says what it consumes and which numbers it sets in the
`Reading`; what a pattern leaves unset is the first of its kind, so a pattern without a time of day
means midnight.

A text is refused for one of four reasons, and the first item that fails gives the reason.
-/

namespace LogDigest

open Text

-- The powers here are those of the core library, whatever is imported beside this module.
attribute [local instance (high)] instPowNat

/-- Why a text is no date-time of a pattern. -/
inductive Misread where
  /-- A number is not one of its unit, or the numbers name no real day or moment. -/
  | outOfRange
  /-- A character does not belong where it stands. -/
  | invalid
  | tooShort
  | tooLong
deriving DecidableEq, Repr

/-- The reason in words. -/
def Misread.message : Misread → String
  | .outOfRange => "input is out of range"
  | .invalid => "input contains invalid characters"
  | .tooShort => "premature end of input"
  | .tooLong => "trailing input"

/-! ## Items -/

/-- A number of a date-time. -/
inductive TimeUnit where
  | year
  | month
  | day
  | hour
  /-- The hour of half a day, from 1 to 12. -/
  | halfDayHour
  | minute
  | second
deriving DecidableEq, Repr

/-- What stands at one place of a pattern. -/
inductive PatternItem where
  /-- Any blanks, then at most two digits, four for a year. A year with a sign may have any
  number of digits. -/
  | number (unit : TimeUnit)
  | digits (unit : TimeUnit) (width : Nat)
  | blanks
  /-- One of these characters. -/
  | mark (chars : List Char)
  /-- Nothing, or a point and at least one digit; digits after the ninth do not count. -/
  | fraction
  /-- The first three letters of a month's name, in any case. -/
  | monthName
  /-- `AM` or `PM`, in any case. -/
  | halfDay
  /-- Any blanks, then a sign, two digits of hours, any blanks and colons, two digits of minutes. -/
  | offset
  /-- The letter `Z`, or a sign, two digits of hours, a colon and two digits of minutes. -/
  | zone
deriving DecidableEq, Repr

/-- The numbers read so far. -/
structure Reading where
  year : Int := 1
  month : Nat := 1
  day : Nat := 1
  /-- The hour, of the day or of half a day. -/
  hour : Nat := 0
  /-- Whether the hour is one of the second half of the day. -/
  afternoon : Bool := false
  minute : Nat := 0
  second : Nat := 0
  nano : Nat := 0
  /-- How many minutes the time is ahead of universal time. -/
  offset : Int := 0
deriving DecidableEq, Repr

/-- What remains to be read, and the numbers so far; or the reason to refuse. -/
abbrev ReadResult := Except Misread (Reading × List Char)

namespace Reading

/-- Sets the number of a unit, if there is such a number. A year is bounded here by 32 bits only;
whether the calendar has it shows in the date. -/
def set (r : Reading) (unit : TimeUnit) (n : Int) : Except Misread Reading :=
  match unit with
  | .year =>
    if -2147483648 ≤ n ∧ n ≤ 2147483647 then .ok { r with year := n } else .error .outOfRange
  | .month => if 1 ≤ n ∧ n ≤ 12 then .ok { r with month := n.toNat } else .error .outOfRange
  | .day => if 1 ≤ n ∧ n ≤ 31 then .ok { r with day := n.toNat } else .error .outOfRange
  | .hour => if 0 ≤ n ∧ n ≤ 23 then .ok { r with hour := n.toNat } else .error .outOfRange
  | .halfDayHour =>
    if 1 ≤ n ∧ n ≤ 12 then .ok { r with hour := n.toNat % 12 } else .error .outOfRange
  | .minute => if 0 ≤ n ∧ n ≤ 59 then .ok { r with minute := n.toNat } else .error .outOfRange
  | .second => if 0 ≤ n ∧ n ≤ 60 then .ok { r with second := n.toNat } else .error .outOfRange

/-- The moment that the numbers name, in universal time. -/
def timestamp (r : Reading) : Except Misread Timestamp :=
  let time := Time.ofHms? (r.hour + if r.afternoon then 12 else 0) r.minute r.second r.nano
  match Date.ofYmd? r.year r.month r.day, time with
  | some date, some time =>
    match Timestamp.earlierBy? { date, time } r.offset with
    | some t => .ok t
    | none => .error .outOfRange
  | _, _ => .error .outOfRange

end Reading

/-! ## Reading single items -/

/-- At least one and at most `width` digits: their value and the rest. -/
def readDigits (width : Nat) (s : List Char) : Except Misread (Nat × List Char) :=
  let ds := (s.take width).takeWhile Char.isDigit
  if ds.isEmpty then .error (if s.isEmpty then .tooShort else .invalid)
  else .ok (Nat.ofDigitChars 10 ds 0, s.drop ds.length)

/-- Exactly `width` digits: their value and the rest. -/
def readExactDigits (width : Nat) (s : List Char) : Except Misread (Nat × List Char) :=
  let ds := s.take width
  if ds.length < width then .error .tooShort
  else if ds.all Char.isDigit then .ok (Nat.ofDigitChars 10 ds 0, s.drop width)
  else .error .invalid

/-- A year: with a sign any number of digits, without a sign at most four. -/
def readYear : List Char → Except Misread (Int × List Char)
  | '-' :: s => (readDigits s.length s).map fun (n, rest) => (-(n : Int), rest)
  | '+' :: s => (readDigits s.length s).map fun (n, rest) => ((n : Int), rest)
  | s => (readDigits 4 s).map fun (n, rest) => ((n : Int), rest)

def readNumber : TimeUnit → List Char → Except Misread (Int × List Char)
  | .year, s => readYear s
  | _, s => (readDigits 2 s).map fun (n, rest) => ((n : Int), rest)

/-- The digits behind the point of a fraction: the nanoseconds they name and the rest. -/
def readFraction (s : List Char) : Except Misread (Nat × List Char) :=
  (readDigits 9 s).map fun (n, rest) =>
    (n * 10 ^ (9 - (s.length - rest.length)), rest.dropWhile Char.isDigit)

/-- The first three letters of the names of the months. -/
def monthNames : List (List Char) :=
  [['j', 'a', 'n'], ['f', 'e', 'b'], ['m', 'a', 'r'], ['a', 'p', 'r'], ['m', 'a', 'y'],
   ['j', 'u', 'n'], ['j', 'u', 'l'], ['a', 'u', 'g'], ['s', 'e', 'p'], ['o', 'c', 't'],
   ['n', 'o', 'v'], ['d', 'e', 'c']]

/-- The sign of an offset; the minus may be the hyphen or the sign U+2212. -/
def readSign : List Char → Except Misread (Int × List Char)
  | [] => .error .tooShort
  | c :: s =>
    if c = '+' then .ok (1, s)
    else if c = '-' ∨ c = '\u2212' then .ok (-1, s)
    else .error .invalid

/-- The hours and minutes of an offset, with `gap` reading what stands between them. The minutes
are below 60. -/
def readOffset (gap : List Char → Except Misread (List Char)) (s : List Char) :
    Except Misread (Int × List Char) := do
  let (sign, s) ← readSign s
  let (hours, s) ← readExactDigits 2 s
  let s ← gap s
  let (minutes, s) ← readExactDigits 2 s
  if 60 ≤ minutes then .error .outOfRange
  else if 24 ≤ hours then .error .outOfRange
  else .ok (sign * (hours * 60 + minutes : Nat), s)

def readMark (chars : List Char) : List Char → Except Misread (List Char)
  | [] => .error .tooShort
  | c :: s => if chars.contains c then .ok s else .error .invalid

/-- The universal-time letter or an offset with a colon. -/
def readZone : List Char → Except Misread (Int × List Char)
  | [] => .error .tooShort
  | c :: s => if c = 'Z' ∨ c = 'z' then .ok (0, s) else readOffset (readMark [':']) (c :: s)

namespace PatternItem

def read (item : PatternItem) (r : Reading) (s : List Char) : ReadResult :=
  match item with
  | .number unit => do
    let (n, rest) ← readNumber unit (trimLeft s)
    return (← r.set unit n, rest)
  | .digits unit width => do
    let (n, rest) ← readExactDigits width s
    return (← r.set unit n, rest)
  | .blanks => .ok (r, trimLeft s)
  | .mark chars => (readMark chars s).map fun rest => (r, rest)
  | .fraction =>
    match s with
    | '.' :: s => (readFraction s).map fun (n, rest) => ({ r with nano := n }, rest)
    | _ => .ok (r, s)
  | .monthName =>
    if (s.take 3).length < 3 then .error .tooShort
    else
      match monthNames.idxOf? ((s.take 3).map Char.toLower) with
      | some i => .ok ({ r with month := i + 1 }, s.drop 3)
      | none => .error .invalid
  | .halfDay =>
    if (s.take 2).length < 2 then .error .tooShort
    else if (s.take 2).map Char.toLower = ['a', 'm'] then
      .ok ({ r with afternoon := false }, s.drop 2)
    else if (s.take 2).map Char.toLower = ['p', 'm'] then
      .ok ({ r with afternoon := true }, s.drop 2)
    else .error .invalid
  | .offset =>
    (readOffset (fun s => .ok (s.dropWhile fun c => c == ':' || isBlank c)) (trimLeft s)).map
      fun (m, rest) => ({ r with offset := m }, rest)
  | .zone => (readZone s).map fun (m, rest) => ({ r with offset := m }, rest)

end PatternItem

/-! ## Patterns -/

/-- The items of a date-time in their order. -/
abbrev Pattern := List PatternItem

namespace Pattern

/-- Reads the items of a pattern, which have to use up the text. -/
def readFrom : Pattern → Reading → List Char → Except Misread Reading
  | [], r, [] => .ok r
  | [], _, _ :: _ => .error .tooLong
  | item :: p, r, s => do
    let (r, rest) ← item.read r s
    readFrom p r rest

/-- The moment that a text names by a pattern. -/
def read (p : Pattern) (s : List Char) : Except Misread Timestamp := do
  let r ← p.readFrom {} s
  r.timestamp

end Pattern

end LogDigest
