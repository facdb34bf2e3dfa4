/-!
# JSON values

A value of the interchange format. The members of an object stay in their order, and a number is
either an integer of at most 64 bits, signed or unsigned, or a decimal: a numeral with a fraction or
an exponent, one beyond 64 bits, or minus zero.
-/

namespace LogDigest

/-- A JSON number. -/
inductive JsonNumber where
  /-- An integer that fits 64 bits, signed or unsigned. -/
  | integer (n : Int)
  /-- The decimal `significand * 10 ^ exponent`, with its sign. The significand has 64 bits. -/
  | decimal (negative : Bool) (significand : Nat) (exponent : Int)
deriving DecidableEq, Repr

/-- A JSON value. -/
inductive Json where
  | null
  | bool (b : Bool)
  | number (n : JsonNumber)
  | string (s : String)
  | array (items : List Json)
  /-- Named values in their order. -/
  | object (members : List (String × Json))
deriving Repr

namespace Json

instance : Inhabited Json := ⟨.null⟩

/-- The integer value, for integers of at most 64 bits. -/
def int (n : Int) : Json := .number (.integer n)

/-- The value if there is one, otherwise null. -/
def ofOption {α : Type} (f : α → Json) : Option α → Json
  | none => .null
  | some a => f a

end Json

end LogDigest
