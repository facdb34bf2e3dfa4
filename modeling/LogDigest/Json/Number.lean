import LogDigest.Json.Basic
import LogDigest.Decimal.Shortest

/-!
# Decimals in double precision

A decimal stands for a number of double precision, which is found in two roundings: the significand
and the power of ten are each rounded, and then multiplied, or divided if the exponent is negative.
The result may be a little off the number nearest to the decimal. Below `10 ^ -308` the division is
done in parts. A decimal whose product leaves the range has no value.

The text of such a number has the fewest digits that stand for it, positionally when its leading
digit stands between the fifth place behind the point and the sixteenth before it, otherwise with a
signed exponent.
-/

namespace LogDigest

/-- The number times a power of ten, unless it leaves the range. -/
def Double.scale (x : Double) (exponent : Int) : Option Double :=
  if exponent < -308 then
    if x.m = 0 then some x else (x.dividedBy (.tenTo 308)).scale (exponent + 308)
  else if exponent < 0 then some (x.dividedBy (.tenTo exponent.natAbs))
  else if 308 < exponent then
    if x.m = 0 then some x else none
  else some (x.times (.tenTo exponent.toNat)) |>.filter Double.isFinite
termination_by (-exponent).toNat

namespace JsonNumber

/-- The digits of a decimal with the point set, `point` digits before it. -/
def positional (digits : List Char) (point : Int) : List Char :=
  if point ≤ 0 then ['0', '.'] ++ List.replicate (-point).toNat '0' ++ digits
  else
    let n := point.toNat
    if digits.length ≤ n then digits ++ List.replicate (n - digits.length) '0' ++ ['.', '0']
    else digits.take n ++ ['.'] ++ digits.drop n

/-- The digits of a decimal with the point behind the first, and an exponent with its sign. -/
def scientific (digits : List Char) (exponent : Int) : List Char :=
  digits.take 1 ++ (if digits.length = 1 then [] else '.' :: digits.drop 1) ++
    ['e', if exponent < 0 then '-' else '+'] ++ Nat.toDigits 10 exponent.natAbs

/-- The text of a number of double precision. -/
def doubleText (negative : Bool) (x : Double) : List Char :=
  let body :=
    if x.m = 0 then ['0', '.', '0']
    else
      let d := x.shortest
      let digits := Nat.toDigits 10 d.digits
      let lead : Int := digits.length - 1 + d.exponent
      if -5 ≤ lead ∧ lead ≤ 15 then positional digits (lead + 1) else scientific digits lead
  if negative then '-' :: body else body

/-- The text of a number in a message or a document. -/
def text : JsonNumber → List Char
  | .integer n => (toString n).toList
  | .decimal negative significand exponent =>
    match (Double.ofNat significand).scale exponent with
    | some x => doubleText negative x
    | none => (toString significand).toList ++ ['e'] ++ (toString exponent).toList

/-- Whether the number is an integer of 64 bits or has a value in double precision. -/
def inRange : JsonNumber → Bool
  | .integer _ => true
  | .decimal _ significand exponent => ((Double.ofNat significand).scale exponent).isSome

end JsonNumber

end LogDigest
