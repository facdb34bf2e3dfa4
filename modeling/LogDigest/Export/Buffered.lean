import LogDigest.Export.Bounded

/-!
# Exports write by write

How an export comes to a writer of limited room. The writer may take what is offered in several
goes, one byte or more at a time, and it fails when it has no room.

A document is offered part by part, up to the first part that is not taken whole. A table is written
row by row into a buffer. A piece that finds no room there makes the buffer drain first, which
offers it whole; a buffer that is not taken whole stays. Behind the last row the buffer is drained
once more, and whatever came of that, it is offered a last time when the table is dropped.
-/

namespace LogDigest

/-- How many bytes beyond the first one a writer takes of those offered, at most. -/
abbrev Pace := BoundedWriter → List UInt8 → Nat

namespace BoundedWriter

/-- Offers bytes until they are all taken or there is no room, and tells whether they were. -/
def writeAll (pace : Pace) (w : BoundedWriter) (bytes : List UInt8) : BoundedWriter × Bool :=
  if bytes = [] then (w, true)
  else if w.room = 0 then (w, false)
  else
    let n := min (pace w bytes + 1) (min bytes.length w.room)
    writeAll pace { room := w.room - n, taken := w.taken ++ bytes.take n } (bytes.drop n)
termination_by bytes.length
decreasing_by
  have hlength : 0 < bytes.length := List.length_pos_iff.2 ‹bytes ≠ []›
  rw [List.length_drop]
  omega

/-- Offers parts up to the first that is not taken whole. -/
def writeParts (pace : Pace) (w : BoundedWriter) : List (List UInt8) → BoundedWriter × Bool
  | [] => (w, true)
  | part :: parts =>
    match w.writeAll pace part with
    | (w, true) => w.writeParts pace parts
    | (w, false) => (w, false)

/-- Writes the document of so many records in these parts, and tells how many. -/
def writeDocument (pace : Pace) (w : BoundedWriter) (path : Path) (parts : List (List UInt8))
    (count : Nat) : BoundedWriter × Except ExportError Nat :=
  match w.writeParts pace parts with
  | (w, true) => (w, .ok count)
  | (w, false) => (w, .error (.json path .full))

end BoundedWriter

/-- A table on its way to a writer. -/
structure TableWriter where
  writer : BoundedWriter
  /-- What the buffer holds. -/
  held : List UInt8 := []
  /-- The buffers that were drained so far, and whether each was taken whole. -/
  drained : List (List UInt8 × Bool) := []
deriving DecidableEq, Repr

namespace TableWriter

variable (pace : Pace)

/-- Offers the buffer, and empties it if it is taken whole. -/
def drain (t : TableWriter) : TableWriter × Bool :=
  match t.writer.writeAll pace t.held with
  | (writer, true) => ({ writer, held := [], drained := t.drained ++ [(t.held, true)] }, true)
  | (writer, false) => ({ t with writer, drained := t.drained ++ [(t.held, false)] }, false)

/-- Puts a piece into the buffer, which is drained first if it has no room for it. -/
def put (t : TableWriter) (piece : List UInt8) : TableWriter × Bool :=
  if t.held.length + piece.length ≤ BoundedWriter.bufferSize then
    ({ t with held := t.held ++ piece }, true)
  else
    match t.drain pace with
    | (t, true) => ({ t with held := piece }, true)
    | (t, false) => (t, false)

/-- Puts pieces into the buffer, up to the first failure. -/
def putAll (t : TableWriter) : List (List UInt8) → TableWriter × Bool
  | [] => (t, true)
  | piece :: pieces =>
    match t.put pace piece with
    | (t, true) => t.putAll pieces
    | (t, false) => (t, false)

/-- Writes rows, up to the first failure. -/
def writeRows (t : TableWriter) : List (List String) → TableWriter × Bool
  | [] => (t, true)
  | row :: rows =>
    match t.putAll pace ((Csv.rowTokens row).flatMap BoundedWriter.indivisible) with
    | (t, true) => t.writeRows rows
    | (t, false) => (t, false)

/-- The writer that a dropped table leaves. -/
def drop (t : TableWriter) : BoundedWriter := (t.drain pace).1.writer

/-- The table behind its last row, or where a row failed. -/
def ofRecords (w : BoundedWriter) (records : List Record) : TableWriter × Bool :=
  writeRows pace { writer := w } (Csv.rows records)

end TableWriter

/-- Writes the table of records, and tells how many. -/
def BoundedWriter.writeTable (pace : Pace) (w : BoundedWriter) (path : Path)
    (records : List Record) : BoundedWriter × Except ExportError Nat :=
  match TableWriter.ofRecords pace w records with
  | (t, false) => (t.drop pace, .error (.csv path .full))
  | (t, true) =>
    match t.drain pace with
    | (t, false) => (t.drop pace, .error (.io path .full))
    | (t, true) => (t.drop pace, .ok records.length)

end LogDigest
