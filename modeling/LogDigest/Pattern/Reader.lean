import LogDigest.Pattern.Group
import LogDigest.Pattern.Set

/-!
# Reading patterns

A pattern is a sequence of pieces, or several sequences between bars. A piece is a sign, a set or a
group, and may be repeated. `Pattern.check` reads a whole pattern and tells what is wrong with it.

**Depth.** Pieces, groups, sequences and choices stand inside one another at most 250 deep. A
sequence of one piece and a choice of one sequence do not count.

**Words.** A place between a word and its surroundings is well written but not supported, unless
words are made of ASCII characters.
-/

namespace LogDigest.Pattern

/-! ## What is read -/

/-- A piece of a sequence. -/
structure Piece where
  /-- How many things stand inside one another in it. -/
  depth : Nat := 0
  /-- Whether it only sets the mode, so that there is nothing to repeat. -/
  isSetting : Bool := false
deriving DecidableEq, Repr

/-- The inside of a group, or the whole pattern, as far as it is read. -/
structure Inside where
  /-- The pieces of the current sequence, the last one first. -/
  pieces : List Piece := []
  /-- The depths of the sequences before. -/
  before : List Nat := []
deriving DecidableEq, Repr

namespace Inside

def add (i : Inside) (p : Piece) : Inside := { i with pieces := p :: i.pieces }

/-- Repeats the last piece. -/
def repeat? (i : Inside) : Option Inside :=
  match i.pieces with
  | p :: ps =>
    if p.isSetting then none else some { i with pieces := { depth := p.depth + 1 } :: ps }
  | [] => none

def sequenceDepth (i : Inside) : Nat :=
  match i.pieces with
  | [] => 0
  | [p] => p.depth
  | ps => ps.foldl (fun d p => max d p.depth) 0 + 1

/-- Begins the next sequence behind a bar. -/
def next (i : Inside) : Inside := { before := i.sequenceDepth :: i.before }

def depth (i : Inside) : Nat :=
  match i.before with
  | [] => i.sequenceDepth
  | ds => ds.foldl max i.sequenceDepth + 1

end Inside

/-- How far the reading of a pattern has come. -/
structure Reading where
  inside : Inside := {}
  /-- The insides of the groups around it, with the modes to which they return. -/
  around : List (Inside × Mode) := []
  mode : Mode := {}
  names : List String := []
  /-- Whether a sign asked what a word is in all scripts. -/
  asksForWords : Bool := false
deriving DecidableEq, Repr

namespace Reading

def add (r : Reading) (p : Piece) : Reading := { r with inside := r.inside.add p }

/-- Adds a sign, where it may stand. -/
def addSign (r : Reading) (sign : Sign) : Option Reading :=
  if sign.mayStand r.mode then
    some { r.add {} with asksForWords := r.asksForWords || sign.asksForWords r.mode }
  else none

/-- Begins a group, or sets the mode. No two groups have the same name. -/
def enter (r : Reading) : Opening → Option Reading
  | .setting m => some { r.add { isSetting := true } with mode := m }
  | .group m name? =>
    if name?.any fun name => r.names.contains name then none
    else
      some
        { r with
          inside := {}
          around := (r.inside, r.mode) :: r.around
          mode := m
          names := name?.toList ++ r.names }

/-- Ends a group. -/
def leave (r : Reading) : Option Reading :=
  match r.around with
  | (outer, m) :: around =>
    some { r with inside := outer.add { depth := r.inside.depth + 1 }, around, mode := m }
  | [] => none

/-- Reads what a character begins. -/
def step (r : Reading) (c : Char) (rest : List Char) : Option (Reading × List Char) :=
  if c = '(' then (readOpening r.mode rest).bind fun (o, rest) => (r.enter o).map (·, rest)
  else if c = ')' then r.leave.map (·, rest)
  else if c = '|' then some ({ r with inside := r.inside.next }, rest)
  else if c = '[' then (readSet r.mode rest).map fun (depth, rest) => (r.add { depth }, rest)
  else if c = '?' || c = '*' || c = '+' then
    r.inside.repeat?.map fun inside =>
      ({ r with inside }, if rest.head? = some '?' then rest.tail else rest)
  else if c = '\x7b' then none
  else if c = '\\' then
    (readEscaped r.mode rest).bind fun (sign, rest) => (r.addSign sign).map (·, rest)
  else
    let sign : Sign :=
      if c = '.' then .any else if c = '^' || c = '$' then .place false else .char c false
    (r.addSign sign).map (·, rest)

/-- Reads to the end. Every round reads something, so there are at most `rounds` of them. -/
def run : (rounds : Nat) → Reading → List Char → Option Reading
  | 0, _, _ => none
  | rounds + 1, r, s =>
    match r.mode.skip s with
    | [] => if r.around.isEmpty then some r else none
    | c :: rest =>
      match r.step c rest with
      | some (r, rest) => run rounds r rest
      | none => none

end Reading

/-! ## Whole patterns -/

/-- What is wrong with a pattern. -/
inductive PatternFault where
  | malformed
  /-- It asks what a word is in all scripts. -/
  | words
deriving DecidableEq, Repr

def PatternFault.message : PatternFault → String
  | malformed => "error building NFA"
  | words => "unsupported regex feature for DFAs"

/-- The greatest depth of a pattern. -/
def depthLimit : Nat := 250

/-- What is wrong with a pattern, if anything. -/
def fault? (s : List Char) : Option PatternFault :=
  match Reading.run (s.length + 1) {} s with
  | none => some .malformed
  | some r =>
    if depthLimit < r.inside.depth then some .malformed
    else if r.asksForWords then some .words
    else none

end LogDigest.Pattern
