import LogDigest.Export.Basic

/-!
# Exports to a writer of limited room

A writer takes as many bytes as it has room for, if need be only the first of those offered, and
fails from then on. Documents are offered as they come. A table passes through a buffer that is
offered whole: when the next token finds no room in it, and once more at the end. A doubled quote is
never split between two buffers; any other token is split between its bytes if need be.

A table that fails before its last buffer fails in a row, and otherwise at the end.
-/

namespace LogDigest

/-- A writer of limited room. -/
structure BoundedWriter where
  /-- How many bytes it can still take. -/
  room : Nat
  taken : List UInt8 := []
deriving DecidableEq, Repr

namespace BoundedWriter

/-- Offers bytes, and tells whether all were taken. -/
def offer (w : BoundedWriter) (bytes : List UInt8) : BoundedWriter × Bool :=
  ({ room := w.room - bytes.length, taken := w.taken ++ bytes.take w.room },
   decide (bytes.length ≤ w.room))

/-- The size of the buffer that a table passes through. -/
def bufferSize : Nat := 8192

/-- The pieces of a token that are never split. -/
def indivisible (t : Csv.Token) : List (List UInt8) :=
  match t with
  | [c] => (Utf8.encode [c]).map fun b => [b]
  | _ => [Utf8.encode t]

/-- The buffers that pieces fill one after the other, where the first already holds `held`, last
piece first, of length `fill`. -/
def buffers (fill : Nat) (held : List (List UInt8)) : List (List UInt8) → List (List UInt8)
  | [] => [held.reverse.flatten]
  | p :: ps =>
    if fill + p.length ≤ bufferSize then buffers (fill + p.length) (p :: held) ps
    else held.reverse.flatten :: buffers p.length [p] ps

/-- Offers buffers up to the first that is not taken whole; only the last one is a failure of the
writer at the end. -/
def offerBuffers (path : Path) (w : BoundedWriter) :
    List (List UInt8) → BoundedWriter × Except ExportError Unit
  | [] => (w, .ok ())
  | b :: bs =>
    match w.offer b with
    | (w, true) => offerBuffers path w bs
    | (w, false) => (w, .error (if bs.isEmpty then .io path .full else .csv path .full))

/-- Writes records in a format and tells how many. -/
def writeRecords (w : BoundedWriter) (path : Path) (records : List Record) :
    ExportFormat → BoundedWriter × Except ExportError Nat
  | .json =>
    match w.offer (exportBytes records .json) with
    | (w, true) => (w, .ok records.length)
    | (w, false) => (w, .error (.json path .full))
  | .csv =>
    let pieces := (Csv.tokens (Csv.rows records)).flatMap indivisible
    let (w, result) := offerBuffers path w (buffers 0 [] pieces)
    (w, result.map fun _ => records.length)

end BoundedWriter

end LogDigest
