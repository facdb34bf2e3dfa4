import LogDigest.Pattern.Sign

/-!
# Sets of characters in patterns

A set stands in brackets and holds characters, ranges, kinds, categories and other sets. Two sets
may be joined by a doubled sign for their intersection, their difference or what is in one of them
only; what stands between two such signs is one set. Of a set that is well written only its depth
matters: how many sets, lists and joined sets stand inside one another.
-/

namespace LogDigest.Pattern

/-! ## Sets that are open -/

/-- A set whose closing bracket is still to come. -/
structure OpenSet where
  /-- Whether nothing but hyphens came yet, which then stand for themselves. -/
  fresh : Bool := true
  /-- How many members the current list has. -/
  members : Nat := 0
  /-- The depth of its deepest member. -/
  deepest : Nat := 0
  /-- The depth of what stands before the last joining sign. -/
  before? : Option Nat := none
deriving DecidableEq, Repr

namespace OpenSet

/-- Adds a member of some depth. -/
def add (o : OpenSet) (depth : Nat) : OpenSet :=
  { o with members := o.members + 1, deepest := max o.deepest depth }

/-- The depth of the current list. One member is no list. -/
def listDepth (o : OpenSet) : Nat := if o.members ≤ 1 then o.deepest else o.deepest + 1

/-- The depth of everything so far. -/
def depth (o : OpenSet) : Nat :=
  match o.before? with
  | some d => max d o.listDepth + 1
  | none => o.listDepth

/-- Begins a new list behind a joining sign. -/
def join (o : OpenSet) : OpenSet := { fresh := false, before? := some o.depth }

end OpenSet

/-- Reads what may follow an opening bracket: a sign that the set is everything outside. Outside of
a set of bytes there are bytes that are no characters. -/
def openSet (m : Mode) (s : List Char) : Option (OpenSet × List Char) :=
  match m.skip s with
  | '^' :: rest => if m.characters then some ({}, rest) else none
  | s => some ({}, s)

/-! ## Members -/

/-- The names of the kinds of ASCII characters. -/
def kindNames : List String :=
  ["alnum", "alpha", "ascii", "blank", "cntrl", "digit", "graph", "lower", "print", "punct",
   "space", "upper", "word", "xdigit"]

/-- Reads the name of a kind behind a bracket, and whether everything outside of it is meant. -/
def readKindName : List Char → Option (Bool × List Char)
  | ':' :: s =>
    let (outside, s) :=
      match s with
      | '^' :: s => (true, s)
      | s => (false, s)
    match s.dropWhile (· ≠ ':') with
    | ':' :: ']' :: rest =>
      if kindNames.contains (String.ofList (s.takeWhile (· ≠ ':'))) then some (outside, rest)
      else none
    | _ => none
  | _ => none

/-- Reads one sign inside a set. Without a backslash every character stands for itself. -/
def readMember (m : Mode) : List Char → Option (Sign × List Char)
  | [] => none
  | '\\' :: rest => readEscaped m rest
  | c :: rest => some (.char c false, rest)

/-- The character that decides whether a hyphen stands for itself: the one behind it. Of a remark
only its first character is skipped here. -/
def behindHyphen? (m : Mode) (s : List Char) : Option Char :=
  if m.spaced then
    match Text.trimLeft s with
    | '#' :: rest => (Text.trimLeft rest).head?
    | rest => rest.head?
  else s.head?

/-- Reads a sign or a range. Only characters bound a range, the smaller one first. -/
def readRange (m : Mode) (s : List Char) : Option (List Char) :=
  match readMember m s with
  | none => none
  | some (first, rest) =>
    let alone := if first.mayBeMember m then some (m.skip rest) else none
    match m.skip rest with
    | '-' :: behind =>
      if behindHyphen? m behind = some ']' || behindHyphen? m behind = some '-' then alone
      else
        match first, readMember m (m.skip behind) with
        | .char c _, some (.char d asByte, rest) =>
          if first.mayBeMember m && Sign.mayBeMember m (.char d asByte) && c.toNat ≤ d.toNat then
            some rest
          else none
        | _, _ => none
    | _ => alone

/-! ## Whole sets -/

/-- Reads the rest of the innermost open set and of those around it, and tells the depth of the
whole. Every round reads something, so there are at most `rounds` of them. -/
def readMembers (m : Mode) :
    (rounds : Nat) → OpenSet → (around : List OpenSet) → List Char → Option (Nat × List Char)
  | 0, _, _, _ => none
  | rounds + 1, o, around, s =>
    match m.skip s with
    | [] => none
    | c :: rest =>
      if o.fresh && c = '-' then readMembers m rounds (o.add 0) around rest
      else if o.fresh && o.members = 0 && c = ']' then
        readMembers m rounds { o.add 0 with fresh := false } around rest
      else
        let o := { o with fresh := false }
        if c = '[' then
          match readKindName rest with
          | some (outside, rest) =>
            if outside && !m.characters then none else readMembers m rounds (o.add 0) around rest
          | none =>
            match openSet m rest with
            | some (inner, rest) => readMembers m rounds inner (o :: around) rest
            | none => none
        else if c = ']' then
          match around with
          | [] => some (o.depth + 1, rest)
          | outer :: around => readMembers m rounds (outer.add (o.depth + 1)) around rest
        else if (c = '&' || c = '-' || c = '~') && rest.head? = some c then
          readMembers m rounds o.join around rest.tail
        else
          match readRange m (c :: rest) with
          | some rest => readMembers m rounds (o.add 0) around rest
          | none => none

/-- Reads a set behind its opening bracket, and tells its depth. -/
def readSet (m : Mode) (s : List Char) : Option (Nat × List Char) :=
  match openSet m s with
  | some (o, rest) => readMembers m (s.length + 1) o [] rest
  | none => none

end LogDigest.Pattern
