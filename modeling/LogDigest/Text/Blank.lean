/-!
# Blanks, words and lines

White space is the Unicode property `White_Space`: 25 characters in ten ranges, stable since
Unicode 6.3. On it rest trimming and the split of a text into words. Lines end at a line feed; a
carriage return directly before that line feed belongs to the ending and not to the line.

Scanning functions work on `List Char`, where they are structural recursions.
-/

namespace LogDigest.Text

/-! ## The property -/

/-- Closed ranges of the code points with the property `White_Space`, ascending and apart. -/
def blankRanges : List (Nat × Nat) :=
  [(0x09, 0x0D), (0x20, 0x20), (0x85, 0x85), (0xA0, 0xA0), (0x1680, 0x1680), (0x2000, 0x200A),
   (0x2028, 0x2029), (0x202F, 0x202F), (0x205F, 0x205F), (0x3000, 0x3000)]

/-- Whether a code point lies in one of the closed ranges. -/
def inRanges (ranges : List (Nat × Nat)) (n : Nat) : Bool :=
  ranges.any fun r => r.1 ≤ n && n ≤ r.2

/-- Whether the character has the property `White_Space`. -/
def isBlank (c : Char) : Bool := inRanges blankRanges c.toNat

/-! ## Trimming -/

/-- The text without its leading blanks. -/
def trimLeft (s : List Char) : List Char := s.dropWhile isBlank

/-- The text without its trailing blanks. -/
def trimRight (s : List Char) : List Char := (s.reverse.dropWhile isBlank).reverse

/-- The text without leading and trailing blanks. -/
def trim (s : List Char) : List Char := trimRight (trimLeft s)

/-! ## Words -/

/-- The parts of a text between separators, empty ones included: always one more than there are
separators. -/
def pieces (isSep : Char → Bool) : List Char → List (List Char)
  | [] => [[]]
  | c :: s =>
    if isSep c then [] :: pieces isSep s
    else
      match pieces isSep s with
      | [] => [[c]]
      | p :: ps => (c :: p) :: ps

/-- The non-empty parts of a text between separators. -/
def nonemptyPieces (isSep : Char → Bool) (s : List Char) : List (List Char) :=
  (pieces isSep s).filter fun p => !p.isEmpty

/-- The maximal runs of characters that are not blank. -/
def words (s : List Char) : List (List Char) := nonemptyPieces isBlank s

/-- Words joined by single spaces. -/
def unwords (ws : List (List Char)) : List Char := [' '].intercalate ws

/-! ## Lines -/

/-- A terminated line without the carriage return that belongs to its ending. -/
def chomp (s : List Char) : List Char :=
  if s.getLast? = some '\r' then s.dropLast else s

/-- Lines from the parts between line feeds: the last part is a line only if it holds something,
and no line feed ended it, so its carriage return stays. -/
def linesOfPieces : List (List Char) → List (List Char)
  | [] => []
  | [last] => if last.isEmpty then [] else [last]
  | p :: q :: ps => chomp p :: linesOfPieces (q :: ps)

def lines (s : List Char) : List (List Char) := linesOfPieces (pieces (· == '\n') s)

end LogDigest.Text
