/-!
# Decimal numerals

How integers are read from text and written to it. Digits are the ten ASCII digits. A signed
numeral may open with `+` or `-`, an unsigned one with `+` only; both need at least one digit. A
numeral of a fixed width is refused when its value does not fit.
-/

namespace LogDigest.Text

/-! ## Reading -/

/-- The value of a non-empty run of digits. -/
def digits? (s : List Char) : Option Nat :=
  if s.isEmpty || !s.all Char.isDigit then none else some (Nat.ofDigitChars 10 s 0)

/-- Reads a natural number, with an optional plus sign. -/
def natural? : List Char → Option Nat
  | '+' :: s => digits? s
  | s => digits? s

/-- Reads an integer, with an optional sign. -/
def integer? : List Char → Option Int
  | '-' :: s => (digits? s).map fun n => -(n : Int)
  | s => (natural? s).map Int.ofNat

/-- Reads an integer of 32 bits. -/
def int32? (s : List Char) : Option Int32 :=
  (integer? s).bind fun n =>
    if -2147483648 ≤ n ∧ n ≤ 2147483647 then some (Int32.ofInt n) else none

/-- Reads an integer of 64 bits. -/
def int64? (s : List Char) : Option Int64 :=
  (integer? s).bind fun n =>
    if -9223372036854775808 ≤ n ∧ n ≤ 9223372036854775807 then some (Int64.ofInt n) else none

/-- Reads a natural number of 64 bits. -/
def uint64? (s : List Char) : Option UInt64 :=
  (natural? s).bind fun n => if n < 18446744073709551616 then some (UInt64.ofNat n) else none

/-- The value of a hexadecimal digit of either case. -/
def hexValue? (c : Char) : Option Nat :=
  if '0' ≤ c ∧ c ≤ '9' then some (c.toNat - 48)
  else if 'a' ≤ c ∧ c ≤ 'f' then some (c.toNat - 87)
  else if 'A' ≤ c ∧ c ≤ 'F' then some (c.toNat - 55)
  else none

/-- Whether digits follow, at least one, and nothing behind them. -/
def isDigits (s : List Char) : Bool := !s.isEmpty && s.all Char.isDigit

/-- Whether a text is an exponent: a letter, perhaps a sign, and digits. Nothing is one too. -/
def isExponent : List Char → Bool
  | [] => true
  | mark :: s =>
    (mark = 'e' || mark = 'E') &&
      match s with
      | '+' :: s | '-' :: s => isDigits s
      | s => isDigits s

/-- Whether a text is a decimal without a sign: digits with or without a point among or beside
them, and perhaps an exponent. Infinity and what is no number have names. -/
def isDecimal (s : List Char) : Bool :=
  if ["inf", "infinity", "nan"].contains (String.ofList (s.map Char.toLower)) then true
  else
    let whole := s.takeWhile Char.isDigit
    match s.dropWhile Char.isDigit with
    | '.' :: rest =>
      let part := rest.takeWhile Char.isDigit
      !(whole.isEmpty && part.isEmpty) && isExponent (rest.dropWhile Char.isDigit)
    | rest => !whole.isEmpty && isExponent rest

/-! ## Writing -/

/-- A natural number with at least `width` digits. -/
def padded (width n : Nat) : String :=
  String.ofList (List.replicate (width - (Nat.toDigits 10 n).length) '0' ++ Nat.toDigits 10 n)

end LogDigest.Text
