import LogDigest.Calendar.Date
import LogDigest.Decimal.Shortest
import LogDigest.Json.Lexer
import LogDigest.Text.Blank
import LogDigest.Toml.Basic

/-!
# TOML numbers, truth values and date-times

All values that are neither strings nor collections are words of letters, digits, signs, points,
colons and underscores, and nothing but a blank, a comment, a comma, a closing bracket or a line
break follows them. So a word is read whole and then asked what it is. Only a date and a time may
stand in two words.
-/

namespace LogDigest.Toml

open Text

/-- Whether a character may stand in a word. -/
def isWordChar (c : Char) : Bool :=
  c.isAlphanum || c = '_' || c = '+' || c = '-' || c = '.' || c = ':'

/-! ## Numbers -/

/-- A word without its sign, and whether the sign is a minus. -/
def unsigned : List Char → Bool × List Char
  | '-' :: w => (true, w)
  | '+' :: w => (false, w)
  | w => (false, w)

/-- The digits of a word in which single underscores may stand between digits. -/
def groupedDigits? (isDigit : Char → Bool) (w : List Char) : Option (List Char) :=
  let groups := pieces (· == '_') w
  if groups.all fun g => !g.isEmpty && g.all isDigit then some groups.flatten else none

def valueOf (base : Nat) (digits : List Char) : Nat :=
  digits.foldl (fun n c => n * base + (Text.hexValue? c).getD 0) 0

/-- The digits of a decimal word, which has no zero in front of other digits. -/
def wholeDigits? (w : List Char) : Option (List Char) :=
  match w with
  | '0' :: _ :: _ => none
  | _ => groupedDigits? Char.isDigit w

/-- The natural number that a word in base sixteen, eight or two stands for. -/
def basedInteger? : List Char → Option Nat
  | '0' :: 'x' :: w => (groupedDigits? (fun c => (Text.hexValue? c).isSome) w).map (valueOf 16)
  | '0' :: 'o' :: w => (groupedDigits? (fun c => '0' ≤ c && c ≤ '7') w).map (valueOf 8)
  | '0' :: 'b' :: w => (groupedDigits? (fun c => c = '0' || c = '1') w).map (valueOf 2)
  | _ => none

/-- The integer of 64 bits that a word stands for. -/
def integer? (w : List Char) : Option Int :=
  let n : Option Int :=
    match basedInteger? w with
    | some n => some n
    | none =>
      let (negative, w) := unsigned w
      (wholeDigits? w).map fun ds =>
        let n : Int := valueOf 10 ds
        if negative then -n else n
  n.filter fun n => -9223372036854775808 ≤ n ∧ n ≤ 9223372036854775807

/-- The exponent that stands behind its letter. -/
def exponent? (w : List Char) : Option Int :=
  let (negative, w) := unsigned w
  (groupedDigits? Char.isDigit w).map fun ds =>
    let n : Int := valueOf 10 ds
    if negative then -n else n

/-- The decimal that a word without sign stands for. -/
def decimal? (w : List Char) : Option Decimal :=
  let isExponentLetter (c : Char) : Bool := c = 'e' || c = 'E'
  let (mantissa, exponentPart) := w.span fun c => !isExponentLetter c
  let (whole, places) := mantissa.span (· != '.')
  let exponent : Option Int :=
    match exponentPart with
    | [] => if places.isEmpty then none else some 0
    | _ :: e => exponent? e
  let placeDigits : Option (List Char) :=
    match places with
    | [] => some []
    | _ :: ds => groupedDigits? Char.isDigit ds
  match wholeDigits? whole, placeDigits, exponent with
  | some ds, some ps, some e => some ⟨valueOf 10 (ds ++ ps), e - ps.length⟩
  | _, _, _ => none

/-- Whether a word is a floating-point number. A positive one must not be too large. -/
def isFloat (w : List Char) : Bool :=
  let (negative, w) := unsigned w
  w = ['i', 'n', 'f'] || w = ['n', 'a', 'n'] ||
    match decimal? w with
    | some d => negative || d.fitsDouble
    | none => false

/-! ## Dates and times -/

/-- A number of two digits within bounds. -/
def isPair (low high : Nat) : List Char → Bool
  | [a, b] =>
    a.isDigit && b.isDigit &&
      (decide (low ≤ valueOf 10 [a, b]) && decide (valueOf 10 [a, b] ≤ high))
  | _ => false

def isDate : List Char → Bool
  | [y₁, y₂, y₃, y₄, '-', m₁, m₂, '-', d₁, d₂] =>
    [y₁, y₂, y₃, y₄].all Char.isDigit && isPair 1 12 [m₁, m₂] &&
      isPair 1 (daysInMonth (valueOf 10 [y₁, y₂, y₃, y₄]) (valueOf 10 [m₁, m₂])) [d₁, d₂]
  | _ => false

/-- A word behind the time of day that opens it. -/
def afterTime? : List Char → Option (List Char)
  | h₁ :: h₂ :: ':' :: m₁ :: m₂ :: ':' :: s₁ :: s₂ :: rest =>
    if isPair 0 23 [h₁, h₂] && isPair 0 59 [m₁, m₂] && isPair 0 60 [s₁, s₂] then
      match rest with
      | '.' :: d :: rest => if d.isDigit then some (rest.dropWhile Char.isDigit) else none
      | rest => some rest
    else none
  | _ => none

/-- Whether a word is an offset from universal time, or empty. -/
def isOffset : List Char → Bool
  | [] | ['Z'] | ['z'] => true
  | [sign, h₁, h₂, ':', m₁, m₂] =>
    (sign = '+' || sign = '-') && isPair 0 23 [h₁, h₂] && isPair 0 59 [m₁, m₂]
  | _ => false

/-- Whether a word is a time of day. -/
def isTime (w : List Char) : Bool := afterTime? w = some []

/-- Whether a word is a time of day, perhaps with an offset. -/
def isZonedTime (w : List Char) : Bool := (afterTime? w).any isOffset

/-- Whether a word is a date, a time of day, or both with the letter T between them. -/
def isMoment (w : List Char) : Bool :=
  isDate w || isTime w ||
    isDate (w.take 10) &&
      match w.drop 10 with
      | t :: time => (t = 'T' || t = 't') && isZonedTime time
      | [] => false

/-! ## Words -/

def wordValue (w : List Char) : Except TomlError Toml :=
  if w = ['t', 'r', 'u', 'e'] then .ok (.boolean true)
  else if w = ['f', 'a', 'l', 's', 'e'] then .ok (.boolean false)
  else
    match integer? w with
    | some n => .ok (.integer n)
    | none =>
      if isFloat w then .ok (.float (String.ofList w))
      else if isMoment w then .ok (.moment (String.ofList w))
      else .error (.unknownValue (String.ofList w))

/-- Reads a value that is a word, or a date and a time in two words. -/
def readScalar (s : List Char) : Scan Toml :=
  let (w, rest) := s.span isWordChar
  match w, rest with
  | [], [] => .error .unfinished
  | [], c :: _ => .error (.unexpected c)
  | w, ' ' :: d :: more =>
    if isDate w && d.isDigit then
      let (time, rest) := (d :: more).span isWordChar
      if isZonedTime time then .ok (.moment (String.ofList (w ++ ' ' :: time)), rest)
      else .error (.unknownValue (String.ofList time))
    else (wordValue w).map fun v => (v, rest)
  | w, rest => (wordValue w).map fun v => (v, rest)

end LogDigest.Toml
