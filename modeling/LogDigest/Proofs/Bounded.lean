import LogDigest.Export.Bounded
import LogDigest.Proofs.Utf8

/-!
# A writer with room enough takes the whole export

Documents are offered as they come, and a table through buffers. The buffers hold all of its bytes
in their order, however they are filled (`flatten_buffers`), so a writer that has room for the
export takes exactly its bytes, and the records are all counted (`writeRecords_of_le`).
-/

namespace LogDigest.BoundedWriter

/-- The writer after it took bytes. -/
def take (w : BoundedWriter) (bytes : List UInt8) : BoundedWriter where
  room := w.room - bytes.length
  taken := w.taken ++ bytes

theorem offer_of_le {w : BoundedWriter} {bytes : List UInt8} (h : bytes.length ≤ w.room) :
    w.offer bytes = (w.take bytes, true) := by
  rw [offer, List.take_of_length_le h, decide_eq_true h]
  rfl

theorem take_take (w : BoundedWriter) (bytes bytes' : List UInt8) :
    (w.take bytes).take bytes' = w.take (bytes ++ bytes') := by
  simp only [take, List.length_append, List.append_assoc, Nat.sub_add_eq]

theorem offerBuffers_of_le (path : Path) {w : BoundedWriter} {bs : List (List UInt8)}
    (h : bs.flatten.length ≤ w.room) : offerBuffers path w bs = (w.take bs.flatten, .ok ()) := by
  induction bs generalizing w with
  | nil => simp [offerBuffers, take]
  | cons b bs ih =>
    rw [List.flatten_cons, List.length_append] at h
    have hrest : bs.flatten.length ≤ (w.take b).room := by
      dsimp only [take]
      omega
    rw [offerBuffers, offer_of_le (by omega)]
    dsimp only
    rw [ih hrest, take_take, List.flatten_cons]

/-- The buffers hold what was held before and then all pieces. -/
theorem flatten_buffers (fill : Nat) (held pieces : List (List UInt8)) :
    (buffers fill held pieces).flatten = held.reverse.flatten ++ pieces.flatten := by
  induction pieces generalizing fill held with
  | nil => simp [buffers]
  | cons p pieces ih =>
    rw [buffers]
    split <;> simp [ih]

theorem flatten_indivisible (t : Csv.Token) : (indivisible t).flatten = Utf8.encode t := by
  match t with
  | [] => rfl
  | [c] => rw [indivisible, ← List.flatMap_def, List.flatMap_singleton']
  | c :: d :: t => exact List.append_nil _

theorem flatten_pieces (tokens : List Csv.Token) :
    (tokens.flatMap indivisible).flatten = Utf8.encode tokens.flatten := by
  induction tokens with
  | nil => rfl
  | cons t tokens ih =>
    rw [List.flatMap_cons, List.flatten_append, ih, flatten_indivisible, List.flatten_cons,
      Utf8.encode_append]

/-- **A writer with room for an export takes all of it**, and the records are counted. -/
theorem writeRecords_of_le (path : Path) (records : List Record) (format : ExportFormat)
    {w : BoundedWriter} (h : (exportBytes records format).length ≤ w.room) :
    w.writeRecords path records format =
      (w.take (exportBytes records format), .ok records.length) := by
  cases format with
  | json =>
    rw [writeRecords, offer_of_le h]
  | csv =>
    have hbytes : (buffers 0 [] ((Csv.tokens (Csv.rows records)).flatMap indivisible)).flatten =
        exportBytes records .csv := by
      rw [flatten_buffers, flatten_pieces]
      rfl
    have hoffer : offerBuffers path w
        (buffers 0 [] ((Csv.tokens (Csv.rows records)).flatMap indivisible)) =
          (w.take (exportBytes records .csv), .ok ()) := by
      rw [← hbytes]
      exact offerBuffers_of_le path (by rw [hbytes]; exact h)
    simp only [writeRecords, hoffer]
    rfl

end LogDigest.BoundedWriter
