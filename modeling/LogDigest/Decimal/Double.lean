/-!
# Numbers of double precision

A number of double precision is `m * 2 ^ q` with `m < 2 ^ 53` and `-1074 ≤ q`, where `m` is at least
`2 ^ 52` unless `q` is `-1074`. Only magnitudes are kept, the sign stands beside them.

**Rounding.** Every operation is the exact one followed by one rounding to the nearest number, of
two equally near ones to that with the even significand. Exact values are quotients of natural
numbers. The exponent has no upper end here: an operation whose result has an exponent above `971`
has left the range, and `isFinite` says so.
-/

namespace LogDigest

/-- The magnitude `m * 2 ^ q`. -/
structure Double where
  m : Nat
  q : Int
deriving DecidableEq, Repr

namespace Double

-- The powers here are those of the core library, whatever is imported beside this module.
attribute [local instance (high)] instPowNat

/-! ## Rounding -/

def zero : Double := ⟨0, -1074⟩

/-- Whether the number is within the range of double precision. -/
def isFinite (x : Double) : Bool := decide (x.q ≤ 971)

/-- Whether the next smaller number is only half as far away as the next larger one. -/
def narrowBelow (x : Double) : Bool := x.m == 2 ^ (52 : Nat) && decide (-1074 < x.q)

/-- The multiple of `2 ^ q` that is nearest to a quotient, of two equally near ones the even. -/
def onGrid (numerator denominator : Nat) (q : Int) : Nat :=
  let n := numerator * 2 ^ (-q).toNat
  let d := denominator * 2 ^ q.toNat
  let below := n / d
  match compare (2 * (n % d)) d with
  | .lt => below
  | .gt => below + 1
  | .eq => below + below % 2

/-- The exponent of the grid for a quotient: its multiples below `2 ^ 53` reach the quotient. -/
def gridFor (numerator denominator : Nat) : Int :=
  let q : Int := max (-1074) (Nat.log2 numerator - Nat.log2 denominator - 53)
  if numerator * 2 ^ (-q).toNat < 2 ^ (53 : Nat) * (denominator * 2 ^ q.toNat) then q else q + 1

/-- The number nearest to a quotient. -/
def ofQuotient (numerator denominator : Nat) : Double :=
  if numerator = 0 then zero
  else
    let q := gridFor numerator denominator
    let m := onGrid numerator denominator q
    if m = 2 ^ (53 : Nat) then ⟨2 ^ (52 : Nat), q + 1⟩ else ⟨m, q⟩

/-! ## Operations -/

/-- The number nearest to a natural number. -/
def ofNat (n : Nat) : Double := ofQuotient n 1

/-- The number nearest to a product. -/
def times (x y : Double) : Double :=
  ofQuotient (x.m * y.m * 2 ^ (x.q + y.q).toNat) (2 ^ (-(x.q + y.q)).toNat)

/-- The number nearest to a quotient of numbers. -/
def dividedBy (x y : Double) : Double :=
  ofQuotient (x.m * 2 ^ (x.q - y.q).toNat) (y.m * 2 ^ (y.q - x.q).toNat)

/-- The number nearest to a power of ten. -/
def tenTo (n : Nat) : Double := ofNat (10 ^ n)

end Double

end LogDigest
