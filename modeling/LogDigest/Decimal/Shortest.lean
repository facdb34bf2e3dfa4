import LogDigest.Decimal.Double

/-!
# The fewest digits that read back

A decimal numeral stands for the nearest number of double precision. `Double.shortest` gives, for
such a number, the decimal with the fewest digits that stands for it, and of those the nearest to
it. The search runs in exact arithmetic: for one digit, two digits and so on up to seventeen it
tests the two neighbours of the number on the decimal grid.
-/

namespace LogDigest

/-- The decimal `digits * 10 ^ exponent`. -/
structure Decimal where
  digits : Nat
  exponent : Int
deriving DecidableEq, Repr

namespace Decimal

attribute [local instance (high)] instPowNat

/-- How many digits a decimal has before its point, negative for zeros behind the point. -/
def magnitude (d : Decimal) : Int := (Nat.toDigits 10 d.digits).length + d.exponent

/-- Whether a decimal is nearer to some finite number of double precision than to the power of two
beyond them all. -/
def fitsDouble (d : Decimal) : Bool :=
  if d.digits = 0 ∨ d.magnitude < 308 then true
  else if 310 < d.magnitude then false
  else
    decide (d.digits * 10 ^ d.exponent.toNat <
      (2 ^ (1024 : Nat) - 2 ^ (970 : Nat)) * 10 ^ (-d.exponent).toNat)

/-- The same decimal without trailing zeros among its digits. -/
def strip : Nat → Decimal → Decimal
  | 0, d => d
  | fuel + 1, d =>
    if d.digits ≠ 0 ∧ d.digits % 10 = 0 then strip fuel ⟨d.digits / 10, d.exponent + 1⟩ else d

end Decimal

namespace Double

attribute [local instance (high)] instPowNat

/-- Compares `a * 10 ^ i` with `n * 2 ^ j`. -/
def compareScaled (a : Nat) (i : Int) (n : Nat) (j : Int) : Ordering :=
  compare (a * 10 ^ i.toNat * 2 ^ (-j).toNat) (n * 2 ^ j.toNat * 10 ^ (-i).toNat)

/-- Whether a decimal stands for this number: it lies between the midpoints to the neighbours, and
may be a midpoint when the significand is even. -/
def readsBack (x : Double) (d : Decimal) : Bool :=
  let low := if x.narrowBelow then 4 * x.m - 1 else 4 * x.m - 2
  let lower := compareScaled d.digits d.exponent low (x.q - 2)
  let upper := compareScaled d.digits d.exponent (4 * x.m + 2) (x.q - 2)
  let even := x.m % 2 == 0
  (lower == .gt || (even && lower == .eq)) && (upper == .lt || (even && upper == .eq))

/-- The number of decimal digits before the point, negative for zeros behind it. -/
def magnitude (x : Double) : Int :=
  if 0 ≤ x.q then (Nat.toDigits 10 (x.m * 2 ^ x.q.toNat)).length
  else
    let whole := x.m / 2 ^ (-x.q).toNat
    if whole ≠ 0 then (Nat.toDigits 10 whole).length
    else
      (Nat.toDigits 10 (x.m * 10 ^ (400 : Nat) / 2 ^ (-x.q).toNat)).length - 400

/-- The nearest grid point below or at the number, on the grid of multiples of `10 ^ i`. -/
def floorAt (x : Double) (i : Int) : Nat :=
  x.m * 2 ^ x.q.toNat * 10 ^ (-i).toNat / (2 ^ (-x.q).toNat * 10 ^ i.toNat)

/-- Of the two neighbours on a grid, the one that stands for the number, and the nearer if both do;
of two equally near ones the even. -/
def onGrid? (x : Double) (i : Int) : Option Decimal :=
  let below : Decimal := ⟨x.floorAt i, i⟩
  let above : Decimal := ⟨x.floorAt i + 1, i⟩
  match x.readsBack below, x.readsBack above with
  | true, true =>
    match compareScaled (2 * below.digits + 1) i x.m (x.q + 1) with
    | .gt => some below
    | .lt => some above
    | .eq => some (if below.digits % 2 = 0 then below else above)
  | true, false => some below
  | false, true => some above
  | false, false => none

/-- The decimal of fewest digits that stands for the number. -/
def shortest (x : Double) : Decimal :=
  let found := (List.range 17).findSome? fun n => x.onGrid? (x.magnitude - (n + 1 : Nat))
  Decimal.strip 20 (found.getD ⟨x.m * 2 ^ x.q.toNat, 0⟩)

end Double

end LogDigest
