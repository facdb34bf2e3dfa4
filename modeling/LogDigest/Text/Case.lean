/-!
# Case of ASCII letters

Names of settings, levels and fields are compared without regard to the case of the 26 ASCII
letters; every other character stands for itself.
-/

namespace LogDigest.Text

/-- The text with its ASCII capitals made small. -/
def lower (s : String) : String := String.ofList (s.toList.map Char.toLower)

/-- Equality up to the case of ASCII letters. -/
def sameLetters (s t : String) : Bool := lower s == lower t

end LogDigest.Text
