import LogDigest.Text.Blank

/-!
# Paths

A path is kept as it was written and compared by its parts. Slashes separate parts; empty parts and
dots do not count, except for a slash that opens the path and a dot that is its first part. Paths
are ordered by their parts: the root comes first, then the dot, the double dot, and the names.
-/

namespace LogDigest

open Text

/-- A part of a path. -/
inductive PathPart where
  /-- The slash that opens a path. -/
  | root
  /-- The dot that opens a path. -/
  | here
  | parent
  | name (s : String)
deriving DecidableEq, Repr

namespace PathPart

/-- The place of a part in the order: its kind and its name. -/
def key : PathPart → Nat × String
  | root => (0, "")
  | here => (1, "")
  | parent => (2, "")
  | name s => (3, s)

/-- Whether a part comes before another. -/
def before (p q : PathPart) : Bool :=
  decide (p.key.1 < q.key.1) || p.key.1 == q.key.1 && decide (p.key.2 < q.key.2)

end PathPart

/-- A path as it was written. -/
structure Path where
  text : String
deriving DecidableEq, Repr, Inhabited

namespace Path

/-- The part that a piece between slashes names, unless it does not count. -/
def partOf? (piece : List Char) : Option PathPart :=
  if piece = [] ∨ piece = ['.'] then none
  else if piece = ['.', '.'] then some .parent
  else some (.name (String.ofList piece))

def parts (p : Path) : List PathPart :=
  match pieces (· == '/') p.text.toList with
  | [] => []
  | piece :: rest =>
    let opening :=
      if piece = [] then if rest.isEmpty then none else some .root
      else if piece = ['.'] then some .here
      else partOf? piece
    opening.toList ++ rest.filterMap partOf?

def partText : PathPart → String
  | .root => ""
  | .here => "."
  | .parent => ".."
  | .name s => s

def ofParts (parts : List PathPart) : Path :=
  if parts = [.root] then ⟨"/"⟩ else ⟨"/".intercalate (parts.map partText)⟩

/-- Whether two paths have the same parts. -/
def same (p q : Path) : Bool := p.parts = q.parts

/-- Whether a list of parts comes before another. -/
def partsBefore : List PathPart → List PathPart → Bool
  | _, [] => false
  | [], _ :: _ => true
  | p :: ps, q :: qs => p.before q || p == q && partsBefore ps qs

/-- Whether a path comes before another. -/
def before (p q : Path) : Bool := partsBefore p.parts q.parts

def isEmpty (p : Path) : Bool := p.text.isEmpty

def fileName? (p : Path) : Option String :=
  match p.parts.getLast? with
  | some (.name s) => some s
  | _ => none

/-- What stands behind the last dot of the name that a path ends in. A dot that opens the name does
not count. -/
def extension? (p : Path) : Option String :=
  p.fileName?.bind fun name =>
    match (pieces (· == '.') name.toList).reverse with
    | [] | [_] | [_, []] => none
    | last :: _ => some (String.ofList last)

end Path

end LogDigest
