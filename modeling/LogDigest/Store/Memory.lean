import LogDigest.Store.IoError

/-!
# Files in memory

Two stores, one of inputs and one of outputs, and the paths to which writing is refused. Paths that
have the same parts name the same file, and a file keeps the path under which it came first.
-/

namespace LogDigest

/-- Files with their contents, each path of which is there once. -/
abbrev Shelf := List (Path × List UInt8)

namespace Shelf

/-- The contents of a file. -/
def get? (s : Shelf) (path : Path) : Option (List UInt8) :=
  (s.find? fun f => f.1.same path).map (·.2)

/-- Puts contents into a file. -/
def put (path : Path) (bytes : List UInt8) : Shelf → Shelf
  | [] => [(path, bytes)]
  | f :: s => if f.1.same path then (f.1, bytes) :: s else f :: put path bytes s

/-- The files in the order of their paths. -/
def sorted (s : Shelf) : Shelf := s.mergeSort fun f g => !g.1.before f.1

end Shelf

/-- Inputs, outputs and refusals. -/
structure Memory where
  inputs : Shelf := []
  outputs : Shelf := []
  /-- The paths to which writing is refused. -/
  refusals : List Path := []
deriving DecidableEq, Repr

namespace Memory

/-- Puts a file to read. -/
def provide (m : Memory) (path : Path) (bytes : List UInt8) : Memory :=
  { m with inputs := Shelf.put path bytes m.inputs }

/-- Refuses writing to a path from now on. -/
def refuse (m : Memory) (path : Path) : Memory := { m with refusals := path :: m.refusals }

/-- Reads a file. -/
def read (m : Memory) (path : Path) : Except IoError (List UInt8) :=
  match m.inputs.get? path with
  | some bytes => .ok bytes
  | none => .error (.noInput path)

/-- Writes a file, unless that is refused. -/
def write (m : Memory) (path : Path) (bytes : List UInt8) : Except IoError Memory :=
  if m.refusals.any fun p => p.same path then .error (.refused path)
  else .ok { m with outputs := Shelf.put path bytes m.outputs }

end Memory

end LogDigest
