import LogDigest.Export.Buffered
import LogDigest.Proofs.Bounded

/-!
# A short writer never cuts an export silently

Whatever room a writer has, and however it splits what it is offered, it takes the bytes of an
export up to its room and no others. The export succeeds if and only if these are all of its bytes
(`BoundedWriter.exports_whole_or_fails`).

**Documents** (`writeParts_eq_offer`). Parts offered behind each other up to the first failure are
as good as all of them offered at once.

**Tables** (`TableWriter.Sound`). What was drained and what the buffer holds are together what was
put so far, and the writer took what was drained. A piece keeps this, or it meets a buffer that is
full up to one byte and finds no more room at the writer: then the writer holds what it had room
for, and whatever would come behind changes nothing (`TableWriter.Short`). So a failure at the end
is one behind drained buffers that were all taken whole, and a table of which more than a buffer
finds no room fails in a row (`TableWriter.drained_of_lt`).
-/

namespace LogDigest

namespace BoundedWriter

variable {w : BoundedWriter}

/-! ## Writes in several goes -/

/-- The writer after it took of these bytes what it had room for, and has none. -/
def fill (w : BoundedWriter) (bytes : List UInt8) : BoundedWriter where
  room := 0
  taken := w.taken ++ bytes.take w.room

@[simp]
theorem room_fill (w : BoundedWriter) (bytes : List UInt8) : (w.fill bytes).room = 0 := rfl

theorem offer_of_lt {bytes : List UInt8} (h : w.room < bytes.length) :
    w.offer bytes = (w.fill bytes, false) := by
  rw [offer, decide_eq_false (by omega), Nat.sub_eq_zero_of_le (by omega)]
  rfl

/-- Without room nothing more comes to a writer. -/
theorem fst_offer_of_full (h : w.room = 0) (bytes : List UInt8) : (w.offer bytes).1 = w := by
  cases w
  cases h
  simp [offer]

/-- What is taken whole may be offered on its own. -/
theorem offer_append {bytes : List UInt8} (h : bytes.length ≤ w.room) (more : List UInt8) :
    w.offer (bytes ++ more) = (w.take bytes).offer more := by
  refine Prod.ext ?_ ?_
  · simp [offer, take, List.take_append, List.take_of_length_le h, Nat.sub_sub]
  · show decide ((bytes ++ more).length ≤ w.room) = decide (more.length ≤ w.room - bytes.length)
    rw [decide_eq_decide, List.length_append]
    omega

theorem fill_append {bytes : List UInt8} (h : w.room ≤ bytes.length) (more : List UInt8) :
    w.fill (bytes ++ more) = w.fill bytes := by
  rw [fill, List.take_append_of_le_length h]
  rfl

/-- **However a writer splits a write, it takes the same bytes.** -/
theorem writeAll_eq_offer (pace : Pace) (w : BoundedWriter) (bytes : List UInt8) :
    w.writeAll pace bytes = w.offer bytes := by
  fun_induction writeAll pace w bytes with
  | case1 w => simp [offer]
  | case2 w bytes hne hroom =>
    have hlength : 0 < bytes.length := List.length_pos_iff.2 hne
    rw [offer_of_lt (by omega), fill, hroom]
    cases w
    cases hroom
    simp
  | case3 w bytes hne hroom n ih =>
    have hn : (bytes.take n).length = n := by
      rw [List.length_take]
      omega
    have hfits : (bytes.take n).length ≤ w.room := by omega
    have htake := offer_append hfits (bytes.drop n)
    rw [List.take_append_drop, take, hn] at htake
    rw [ih, htake]

/-- Parts offered up to the first failure are as good as all of them at once. -/
theorem writeParts_eq_offer (pace : Pace) (w : BoundedWriter) (parts : List (List UInt8)) :
    w.writeParts pace parts = w.offer parts.flatten := by
  induction parts generalizing w with
  | nil => simp [writeParts, offer]
  | cons part parts ih =>
    rw [writeParts, writeAll_eq_offer, List.flatten_cons]
    by_cases h : part.length ≤ w.room
    · rw [offer_of_le h, offer_append h]
      exact ih (w.take part)
    · have hlonger : w.room < (part ++ parts.flatten).length := by
        rw [List.length_append]
        omega
      rw [offer_of_lt (by omega), offer_of_lt hlonger, fill_append (by omega)]

/-- A document comes to the writer as if it was offered at once. -/
theorem writeDocument_eq (pace : Pace) (w : BoundedWriter) (path : Path) {records : List Record}
    {parts : List (List UInt8)} (h : parts.flatten = exportBytes records .json) :
    w.writeDocument pace path parts records.length = w.writeRecords path records .json := by
  rcases hoffer : w.offer (exportBytes records .json) with ⟨u, _ | _⟩
  · simp only [writeDocument, writeRecords, writeParts_eq_offer, h, hoffer]
  · simp only [writeDocument, writeRecords, writeParts_eq_offer, h, hoffer]

/-! ## Pieces -/

/-- No piece of the token is longer than two bytes. -/
def IsNarrow (t : Csv.Token) : Prop := ∀ p ∈ indivisible t, p.length ≤ 2

theorem isNarrow_singleton (c : Char) : IsNarrow [c] := by
  intro p hp
  obtain ⟨b, -, rfl⟩ := List.mem_map.1 hp
  simp

theorem isNarrow_quotedChar (c : Char) : IsNarrow (Csv.quotedChar c) := by
  unfold Csv.quotedChar
  split
  · intro p hp
    rw [List.mem_singleton.1 hp]
    decide
  · exact isNarrow_singleton c

theorem isNarrow_of_mem_cellTokens {cell : List Char} : ∀ t ∈ Csv.cellTokens cell, IsNarrow t := by
  intro t ht
  unfold Csv.cellTokens at ht
  split at ht
  · simp only [List.mem_append, List.mem_cons, List.mem_map, List.not_mem_nil, or_false] at ht
    obtain (rfl | ⟨c, -, rfl⟩) | rfl := ht
    · exact isNarrow_singleton '"'
    · exact isNarrow_quotedChar c
    · exact isNarrow_singleton '"'
  · obtain ⟨c, -, rfl⟩ := List.mem_map.1 ht
    exact isNarrow_singleton c

theorem isNarrow_of_mem_joined (cells : List (List Char)) :
    ∀ t ∈ [[',']].intercalate (cells.map Csv.cellTokens), IsNarrow t := by
  induction cells with
  | nil => simp
  | cons cell cells ih =>
    cases cells with
    | nil =>
      rw [List.map_singleton, List.intercalate_singleton]
      exact isNarrow_of_mem_cellTokens
    | cons next cells =>
      rw [List.map_cons, List.map_cons, List.intercalate_cons_cons]
      intro t ht
      simp only [List.mem_append, List.mem_singleton] at ht
      obtain (ht | rfl) | ht := ht
      · exact isNarrow_of_mem_cellTokens t ht
      · exact isNarrow_singleton ','
      · exact ih t ht

theorem isNarrow_of_mem_tokens {rows : List (List String)} : ∀ t ∈ Csv.tokens rows, IsNarrow t := by
  intro t ht
  obtain ⟨row, -, hrow⟩ := List.mem_flatMap.1 ht
  have hcells := isNarrow_of_mem_joined (row.map String.toList)
  rw [List.map_map] at hcells
  rcases List.mem_append.1 hrow with hcell | hend
  · exact hcells t hcell
  · rw [List.mem_singleton.1 hend]
    exact isNarrow_singleton '\n'

def pieces (rows : List (List String)) : List (List UInt8) :=
  (Csv.tokens rows).flatMap indivisible

theorem length_le_of_mem_pieces {rows : List (List String)} : ∀ p ∈ pieces rows, p.length ≤ 2 := by
  intro p hp
  obtain ⟨t, ht, hpt⟩ := List.mem_flatMap.1 hp
  exact isNarrow_of_mem_tokens t ht p hpt

end BoundedWriter

open BoundedWriter (bufferSize pieces)

/-! ## Tables -/

namespace TableWriter

variable (pace : Pace) {w : BoundedWriter} {t : TableWriter} {sent : List UInt8}

/-- What was drained so far. -/
def offered (t : TableWriter) : List UInt8 := t.drained.flatMap Prod.fst

/-- A buffer that is full, up to one byte that half a doubled quote would not fit into. -/
def IsFull (buffer : List UInt8) : Prop :=
  bufferSize - 1 ≤ buffer.length ∧ buffer.length ≤ bufferSize

/-- The table holds what was put into it so far and is not yet drained; the writer took the full
buffers that were. -/
structure Sound (w : BoundedWriter) (sent : List UInt8) (t : TableWriter) : Prop where
  writer : t.writer = w.take t.offered
  fits : t.offered.length ≤ w.room
  sent : t.offered ++ t.held = sent
  held_le : t.held.length ≤ bufferSize
  full : ∀ d ∈ t.drained, IsFull d.1
  accepted : ∀ d ∈ t.drained, d.2 = true

/-- A full buffer was not taken whole: the writer took what it had room for, which is not all that
is put into the table. -/
structure Short (w : BoundedWriter) (sent : List UInt8) (t : TableWriter) : Prop where
  writer : t.writer = w.fill sent
  longer : w.room < sent.length
  full : ∀ d ∈ t.drained, IsFull d.1
  refused : ∃ before last, t.drained = before ++ [(last, false)] ∧ (∀ d ∈ before, d.2 = true) ∧
    w.room < (before.flatMap Prod.fst ++ last).length

/-- What comes behind a failure changes nothing. -/
theorem Short.append (h : Short w sent t) (more : List UInt8) : Short w (sent ++ more) t where
  writer := by rw [h.writer, BoundedWriter.fill_append (Nat.le_of_lt h.longer)]
  longer := by
    have hlonger := h.longer
    rw [List.length_append]
    omega
  full := h.full
  refused := h.refused

/-- The table goes on, or it met a failure, as it tells. -/
inductive Goes (w : BoundedWriter) (sent : List UInt8) : TableWriter × Bool → Prop
  | on {t : TableWriter} : Sound w sent t → Goes w sent (t, true)
  | short {t : TableWriter} : Short w sent t → Goes w sent (t, false)

theorem sound_new (w : BoundedWriter) : Sound w [] { writer := w } where
  writer := by
    cases w
    simp [offered, BoundedWriter.take]
  fits := by simp [offered]
  sent := rfl
  held_le := by simp
  full := by simp
  accepted := by simp

/-- To drain the buffer is to offer the writer all that was put so far. -/
theorem Sound.writeAll_held (h : Sound w sent t) :
    t.writer.writeAll pace t.held = w.offer sent := by
  rw [BoundedWriter.writeAll_eq_offer, h.writer, ← BoundedWriter.offer_append h.fits, h.sent]

theorem Sound.drain_of_le (h : Sound w sent t) (hroom : sent.length ≤ w.room) :
    t.drain pace =
      ({ writer := w.take sent, held := [], drained := t.drained ++ [(t.held, true)] }, true) := by
  rw [drain, h.writeAll_held, BoundedWriter.offer_of_le hroom]

theorem Sound.drain_of_lt (h : Sound w sent t) (hroom : w.room < sent.length) :
    t.drain pace =
      ({ writer := w.fill sent, held := t.held, drained := t.drained ++ [(t.held, false)] },
        false) := by
  rw [drain, h.writeAll_held, BoundedWriter.offer_of_lt hroom]

theorem Sound.full_concat (h : Sound w sent t) (hfull : IsFull t.held) (whole : Bool) :
    ∀ d ∈ t.drained ++ [(t.held, whole)], IsFull d.1 := by
  intro d hd
  rcases List.mem_append.1 hd with hd | hd
  · exact h.full d hd
  · rw [List.mem_singleton.1 hd]
    exact hfull

/-- A piece finds room in the buffer. -/
theorem Sound.hold (h : Sound w sent t) {piece : List UInt8}
    (hfits : t.held.length + piece.length ≤ bufferSize) :
    Sound w (sent ++ piece) { t with held := t.held ++ piece } where
  writer := h.writer
  fits := h.fits
  sent := by
    rw [← h.sent, List.append_assoc]
    rfl
  held_le := by simpa using hfits
  full := h.full
  accepted := h.accepted

/-- A full buffer is taken whole. -/
theorem Sound.drained (h : Sound w sent t) (hfull : IsFull t.held) (hroom : sent.length ≤ w.room) :
    Sound w sent
      { writer := w.take sent, held := [], drained := t.drained ++ [(t.held, true)] } := by
  have hoffered : (t.drained ++ [(t.held, true)]).flatMap Prod.fst = sent := by
    rw [List.flatMap_append, List.flatMap_singleton, ← h.sent]
    rfl
  exact {
    writer := by rw [offered, hoffered]
    fits := by
      rw [offered, hoffered]
      exact hroom
    sent := by rw [offered, hoffered, List.append_nil]
    held_le := by simp
    full := h.full_concat hfull true
    accepted := by
      intro d hd
      rcases List.mem_append.1 hd with hd | hd
      · exact h.accepted d hd
      · rw [List.mem_singleton.1 hd] }

/-- A full buffer is not taken whole. -/
theorem Sound.refused (h : Sound w sent t) (hfull : IsFull t.held) (hroom : w.room < sent.length) :
    Short w sent
      { writer := w.fill sent, held := t.held, drained := t.drained ++ [(t.held, false)] } where
  writer := rfl
  longer := hroom
  full := h.full_concat hfull false
  refused := by
    refine ⟨t.drained, t.held, rfl, h.accepted, ?_⟩
    rw [← h.sent] at hroom
    exact hroom

/-- **One piece more.** -/
theorem Sound.put (h : Sound w sent t) {piece : List UInt8} (hpiece : piece.length ≤ 2) :
    Goes w (sent ++ piece) (t.put pace piece) := by
  have hheld := h.held_le
  unfold TableWriter.put
  by_cases hfits : t.held.length + piece.length ≤ bufferSize
  · rw [if_pos hfits]
    exact .on (h.hold hfits)
  · have hfull : IsFull t.held := ⟨by omega, hheld⟩
    rw [if_neg hfits]
    by_cases hroom : sent.length ≤ w.room
    · rw [h.drain_of_le pace hroom]
      have hempty : 0 + piece.length ≤ bufferSize := by
        unfold BoundedWriter.bufferSize
        omega
      exact .on ((h.drained hfull hroom).hold hempty)
    · rw [h.drain_of_lt pace (by omega)]
      exact .short ((h.refused hfull (by omega)).append piece)

/-- Pieces behind each other. -/
theorem Sound.putAll {pieces : List (List UInt8)} (hpieces : ∀ p ∈ pieces, p.length ≤ 2)
    (h : Sound w sent t) : Goes w (sent ++ pieces.flatten) (t.putAll pace pieces) := by
  induction pieces generalizing t sent with
  | nil =>
    rw [List.flatten_nil, List.append_nil]
    exact .on h
  | cons p pieces ih =>
    have hput := h.put pace (hpieces p List.mem_cons_self)
    rw [TableWriter.putAll, List.flatten_cons, ← List.append_assoc]
    generalize t.put pace p = next at hput
    cases hput with
    | on hsound => exact ih (fun q hq => hpieces q (List.mem_cons_of_mem p hq)) hsound
    | short hshort => exact .short (hshort.append pieces.flatten)

/-! ### Rows -/

theorem putAll_append (t : TableWriter) (pieces pieces' : List (List UInt8)) :
    t.putAll pace (pieces ++ pieces') =
      match t.putAll pace pieces with
      | (u, true) => u.putAll pace pieces'
      | (u, false) => (u, false) := by
  induction pieces generalizing t with
  | nil => rfl
  | cons p pieces ih =>
    rw [List.cons_append, putAll, putAll]
    rcases t.put pace p with ⟨u, _ | _⟩
    · rfl
    · exact ih u

theorem writeRows_eq (t : TableWriter) (rows : List (List String)) :
    t.writeRows pace rows = t.putAll pace (pieces rows) := by
  induction rows generalizing t with
  | nil => rfl
  | cons row rows ih =>
    have hpieces : pieces (row :: rows) =
        (Csv.rowTokens row).flatMap BoundedWriter.indivisible ++ pieces rows := by
      unfold pieces Csv.tokens
      rw [List.flatMap_cons, List.flatMap_append]
    rw [hpieces, putAll_append, writeRows]
    rcases t.putAll pace ((Csv.rowTokens row).flatMap BoundedWriter.indivisible) with ⟨u, _ | _⟩
    · rfl
    · exact ih u

theorem flatten_pieces_rows (records : List Record) :
    (pieces (Csv.rows records)).flatten = exportBytes records .csv :=
  BoundedWriter.flatten_pieces _

/-- **The table behind its last row**, or where a row failed. -/
theorem goes_ofRecords (w : BoundedWriter) (records : List Record) :
    Goes w (exportBytes records .csv) (ofRecords pace w records) := by
  have hall : Goes w ([] ++ (pieces (Csv.rows records)).flatten)
      (TableWriter.putAll pace { writer := w } (pieces (Csv.rows records))) :=
    (sound_new w).putAll pace BoundedWriter.length_le_of_mem_pieces
  rw [List.nil_append, flatten_pieces_rows] at hall
  rw [ofRecords, writeRows_eq]
  exact hall

/-- A table is written to the end if and only if every buffer on the way was taken whole. -/
theorem snd_ofRecords_iff (w : BoundedWriter) (records : List Record) :
    (ofRecords pace w records).2 = true ↔
      ∀ d ∈ (ofRecords pace w records).1.drained, d.2 = true := by
  have hgoes := goes_ofRecords pace w records
  generalize ofRecords pace w records = out at hgoes
  cases hgoes with
  | on hsound =>
    simp only [true_iff]
    exact hsound.accepted
  | short hshort =>
    obtain ⟨before, last, hdrained, -⟩ := hshort.refused
    simp only [Bool.false_eq_true, false_iff]
    intro hall
    cases hall (last, false) (by simp [hdrained])

/-- Of a table that goes on, no more than a buffer is yet to come to the writer. -/
theorem Sound.length_le (h : Sound w sent t) : sent.length ≤ w.room + bufferSize := by
  have hfits := h.fits
  have hheld := h.held_le
  rw [← h.sent, List.length_append]
  omega

/-- A writer with room for a buffer, but not for all of the table up to one, takes a buffer whole
and then meets a failure in a row. -/
theorem drained_of_lt {w : BoundedWriter} {records : List Record} (hbuffer : bufferSize ≤ w.room)
    (hroom : w.room + bufferSize < (exportBytes records .csv).length) :
    (ofRecords pace w records).2 = false ∧
      ∀ whole, ∃ d ∈ (ofRecords pace w records).1.drained, d.2 = whole := by
  have hgoes := goes_ofRecords pace w records
  generalize ofRecords pace w records = out at hgoes
  cases hgoes with
  | on hsound =>
    have hlength := hsound.length_le
    omega
  | @short t hshort =>
    obtain ⟨before, last, hdrained, haccepted, hlonger⟩ := hshort.refused
    have hlast : last.length ≤ bufferSize := (hshort.full (last, false) (by simp [hdrained])).2
    refine ⟨rfl, fun whole => ?_⟩
    cases whole with
    | false => exact ⟨(last, false), by simp [hdrained], rfl⟩
    | true =>
      -- The last buffer alone would have found room.
      cases before with
      | nil =>
        rw [List.flatMap_nil, List.nil_append] at hlonger
        omega
      | cons d before => exact ⟨d, by simp [hdrained], haccepted d List.mem_cons_self⟩

/-! ### The end of a table -/

/-- A table that is dropped leaves a writer without room as it is. -/
theorem drop_of_full (h : t.writer.room = 0) : t.drop pace = t.writer := by
  have hwriter := BoundedWriter.fst_offer_of_full h t.held
  rw [drop, drain, BoundedWriter.writeAll_eq_offer]
  generalize t.writer.offer t.held = out at hwriter
  rcases out with ⟨u, _ | _⟩
  · exact hwriter
  · exact hwriter

/-- A table with nothing in its buffer leaves the writer as it is. -/
theorem drop_of_held_nil (h : t.held = []) : t.drop pace = t.writer := by
  rw [drop, drain, h, BoundedWriter.writeAll]
  rfl

end TableWriter

namespace BoundedWriter

variable (pace : Pace)

/-- **What becomes of a table.** With room for all of it the writer takes all of it. Otherwise it
takes what it has room for, and the failure is one of a row or one at the end. -/
theorem writeTable_eq (w : BoundedWriter) (path : Path) (records : List Record) :
    w.writeTable pace path records =
      if (exportBytes records .csv).length ≤ w.room then
        (w.take (exportBytes records .csv), .ok records.length)
      else
        (w.fill (exportBytes records .csv),
          .error (if (TableWriter.ofRecords pace w records).2 then .io path .full
            else .csv path .full)) := by
  have hgoes := TableWriter.goes_ofRecords pace w records
  unfold writeTable
  generalize TableWriter.ofRecords pace w records = out at hgoes ⊢
  cases hgoes with
  | on hsound =>
    by_cases hroom : (exportBytes records .csv).length ≤ w.room
    · rw [if_pos hroom]
      dsimp only
      rw [hsound.drain_of_le pace hroom]
      dsimp only
      rw [TableWriter.drop_of_held_nil pace rfl]
    · rw [if_neg hroom]
      dsimp only
      rw [hsound.drain_of_lt pace (by omega)]
      dsimp only
      rw [TableWriter.drop_of_full pace (room_fill w _), if_pos rfl]
  | @short t hshort =>
    have hfull : t.writer.room = 0 := by rw [hshort.writer, room_fill]
    rw [if_neg (Nat.not_le_of_lt hshort.longer)]
    dsimp only
    rw [TableWriter.drop_of_full pace hfull, hshort.writer, if_neg Bool.false_ne_true]

/-! ### Buffers behind each other -/

theorem buffers_ne_nil (fill : Nat) (held pieces : List (List UInt8)) :
    buffers fill held pieces ≠ [] := by
  induction pieces generalizing fill held with
  | nil => simp [buffers]
  | cons p pieces ih =>
    rw [buffers]
    split
    · exact ih _ _
    · exact List.cons_ne_nil _ _

/-- To offer the buffers that pieces fill, up to the first failure, is to put the pieces into a
table and to drain it behind them. -/
theorem offerBuffers_buffers (path : Path) {t : TableWriter} {held pieces : List (List UInt8)}
    (hheld : held.reverse.flatten = t.held) :
    offerBuffers path t.writer (buffers t.held.length held pieces) =
      match t.putAll pace pieces with
      | (u, true) =>
        ((u.drain pace).1.writer, if (u.drain pace).2 then .ok () else .error (.io path .full))
      | (u, false) => (u.writer, .error (.csv path .full)) := by
  induction pieces generalizing t held with
  | nil =>
    rw [buffers, hheld, TableWriter.putAll, offerBuffers]
    dsimp only
    rw [TableWriter.drain, writeAll_eq_offer]
    rcases t.writer.offer t.held with ⟨u, _ | _⟩
    · rfl
    · rfl
  | cons p pieces ih =>
    rw [buffers, TableWriter.putAll, TableWriter.put]
    by_cases hfits : t.held.length + p.length ≤ bufferSize
    · rw [if_pos hfits, if_pos hfits]
      have hnext : (p :: held).reverse.flatten = t.held ++ p := by simp [hheld]
      have hput := ih (t := { t with held := t.held ++ p }) hnext
      rw [List.length_append] at hput
      exact hput
    · rw [if_neg hfits, if_neg hfits, hheld, offerBuffers, TableWriter.drain, writeAll_eq_offer]
      rcases t.writer.offer t.held with ⟨u, _ | _⟩
      · simp [buffers_ne_nil]
      · exact ih (t := { writer := u, held := p, drained := t.drained ++ [(t.held, true)] })
          (List.append_nil p)

/-- Row by row and buffer by buffer, a table is written as its buffers are offered. -/
theorem writeTable_eq_writeRecords (w : BoundedWriter) (path : Path) (records : List Record) :
    w.writeTable pace path records = w.writeRecords path records .csv := by
  rw [writeTable_eq]
  by_cases hroom : (exportBytes records .csv).length ≤ w.room
  · rw [if_pos hroom, writeRecords_of_le path records .csv hroom]
  · -- Without room for all of it the buffers meet the failure where the table does.
    have hgoes := TableWriter.goes_ofRecords pace w records
    have hbuffers : offerBuffers path w (buffers 0 [] (pieces (Csv.rows records))) = _ :=
      offerBuffers_buffers pace path (t := { writer := w }) rfl
    unfold TableWriter.ofRecords at hgoes ⊢
    unfold writeRecords
    rw [if_neg hroom]
    rw [TableWriter.writeRows_eq] at hgoes ⊢
    dsimp only
    rw [← pieces, hbuffers]
    generalize TableWriter.putAll pace { writer := w } (pieces (Csv.rows records)) = out
      at hgoes ⊢
    cases hgoes with
    | on hsound =>
      dsimp only
      rw [hsound.drain_of_lt pace (by omega)]
      rfl
    | short hshort =>
      dsimp only
      rw [hshort.writer]
      rfl

/-! ## How long exports are -/

theorem length_le_encode (s : List Char) : s.length ≤ (Utf8.encode s).length := by
  induction s with
  | nil => simp
  | cons c s ih =>
    have hc := c.utf8Size_pos
    have hcons : Utf8.encode (c :: s) = String.utf8EncodeChar c ++ Utf8.encode s := rfl
    rw [hcons, List.length_append, String.length_utf8EncodeChar, List.length_cons]
    omega

/-- Every row ends in a line feed. -/
theorem length_le_text (rows : List (List String)) : rows.length ≤ (Csv.text rows).length := by
  induction rows with
  | nil => simp
  | cons row rows ih =>
    have hcons : Csv.text (row :: rows) = (Csv.rowTokens row).flatten ++ Csv.text rows := by
      rw [Csv.text, Csv.tokens, List.flatMap_cons, List.flatten_append]
      rfl
    have hrow : 0 < (Csv.rowTokens row).flatten.length := by simp [Csv.rowTokens]
    rw [hcons, List.length_append, List.length_cons]
    omega

/-- Every item begins a line. -/
theorem length_le_prettyItems (level : Nat) :
    ∀ items : List Json, items.length ≤ (Json.prettyItems level items).length
  | [] => by simp
  | [v] => by simp [Json.prettyItems, Json.newline]
  | v :: w :: vs => by
    have ih := length_le_prettyItems level (w :: vs)
    simp only [Json.prettyItems, Json.newline, List.length_append, List.length_cons] at ih ⊢
    omega

theorem length_le_prettyAt (level : Nat) (items : List Json) :
    items.length ≤ (Json.prettyAt level (.array items)).length := by
  cases items with
  | nil => simp
  | cons v vs =>
    have hitems := length_le_prettyItems (level + 1) (v :: vs)
    simp only [Json.prettyAt, List.length_append, List.length_cons] at hitems ⊢
    omega

/-- An export has a byte for every record at least. -/
theorem length_le_exportBytes (records : List Record) (format : ExportFormat) :
    records.length ≤ (exportBytes records format).length := by
  refine Nat.le_trans ?_ (length_le_encode (exportText records format))
  cases format with
  | json =>
    have hitems := length_le_prettyAt 0 (records.map Record.toJson)
    rw [List.length_map] at hitems
    rw [exportText, documents, Json.pretty, String.toList_ofList]
    exact hitems
  | csv =>
    have hrows := length_le_text (Csv.rows records)
    rw [Csv.rows, List.length_cons, List.length_map] at hrows
    exact Nat.le_of_succ_le hrows

/-! ## Short writers -/

/-- What an export of these bytes to a writer tells and leaves: with room for them it counts the
records, and the writer took them all; otherwise there is a failure, and the writer took those it
had room for. -/
structure WholeOrFails (w : BoundedWriter) (bytes : List UInt8) (count : Nat)
    (failures : List ExportError) (out : BoundedWriter × Except ExportError Nat) : Prop where
  ok_iff : out.2 = .ok count ↔ bytes.length ≤ w.room
  whole : bytes.length ≤ w.room → out.1.taken = w.taken ++ bytes
  failed : w.room < bytes.length → ∃ e ∈ failures, out.2 = .error e
  cut : w.room < bytes.length → out.1.taken = w.taken ++ bytes.take w.room

theorem wholeOrFails_of_le {w : BoundedWriter} {bytes : List UInt8} (h : bytes.length ≤ w.room)
    (count : Nat) (failures : List ExportError) :
    WholeOrFails w bytes count failures (w.take bytes, .ok count) where
  ok_iff := iff_of_true rfl h
  whole _ := rfl
  failed hlt := absurd h (Nat.not_le_of_lt hlt)
  cut hlt := absurd h (Nat.not_le_of_lt hlt)

theorem wholeOrFails_of_lt {w : BoundedWriter} {bytes : List UInt8} (h : w.room < bytes.length)
    (count : Nat) {failures : List ExportError} {e : ExportError} (he : e ∈ failures) :
    WholeOrFails w bytes count failures (w.fill bytes, .error e) where
  ok_iff := iff_of_false nofun (Nat.not_le_of_lt h)
  whole hle := absurd hle (Nat.not_le_of_lt h)
  failed _ := ⟨e, he, rfl⟩
  cut _ := rfl

theorem writeDocument_wholeOrFails (w : BoundedWriter) (path : Path)
    (parts : List (List UInt8)) (count : Nat) :
    WholeOrFails w parts.flatten count [.json path .full]
      (w.writeDocument pace path parts count) := by
  unfold writeDocument
  rw [writeParts_eq_offer]
  by_cases h : parts.flatten.length ≤ w.room
  · rw [offer_of_le h]
    exact wholeOrFails_of_le h count _
  · rw [offer_of_lt (by omega)]
    exact wholeOrFails_of_lt (by omega) count (List.mem_singleton.2 rfl)

theorem writeTable_wholeOrFails (w : BoundedWriter) (path : Path) (records : List Record) :
    WholeOrFails w (exportBytes records .csv) records.length [.csv path .full, .io path .full]
      (w.writeTable pace path records) := by
  rw [writeTable_eq]
  by_cases h : (exportBytes records .csv).length ≤ w.room
  · rw [if_pos h]
    exact wholeOrFails_of_le h _ _
  · rw [if_neg h]
    apply wholeOrFails_of_lt (by omega)
    cases (TableWriter.ofRecords pace w records).2 <;> simp

/-- A table fails at its end if and only if all buffers on the way were taken whole and the one
behind them was not. -/
theorem writeTable_io_iff (w : BoundedWriter) (path : Path) (records : List Record) :
    (w.writeTable pace path records).2 = .error (.io path .full) ↔
      (∀ d ∈ (TableWriter.ofRecords pace w records).1.drained, d.2 = true) ∧
        ((TableWriter.ofRecords pace w records).1.drain pace).2 = false := by
  have hgoes := TableWriter.goes_ofRecords pace w records
  rw [← TableWriter.snd_ofRecords_iff, writeTable_eq]
  generalize TableWriter.ofRecords pace w records = out at hgoes ⊢
  cases hgoes with
  | on hsound =>
    by_cases hroom : (exportBytes records .csv).length ≤ w.room
    · rw [if_pos hroom, hsound.drain_of_le pace hroom]
      simp
    · rw [if_neg hroom, hsound.drain_of_lt pace (by omega)]
      simp
  | short hshort =>
    rw [if_neg (Nat.not_le_of_lt hshort.longer)]
    simp

/-- **No writer cuts an export silently.** Whatever room it has, however it splits what it is
offered and in whatever parts a document comes to it, the export of records counts them if and only
if there is room for all of its bytes, which the writer then took. Otherwise the writer took those
that it had room for, and there is a failure: for a table one of a row, or one at the end, which it
is if and only if the writer took every buffer that was drained in a row, but not the last one. Only
full buffers are drained in rows. -/
theorem exports_whole_or_fails (w : BoundedWriter) (path : Path) (records : List Record) :
    (∀ parts, parts.flatten = exportBytes records .json →
      WholeOrFails w (exportBytes records .json) records.length [.json path .full]
          (w.writeDocument pace path parts records.length) ∧
        w.writeDocument pace path parts records.length = w.writeRecords path records .json) ∧
    WholeOrFails w (exportBytes records .csv) records.length [.csv path .full, .io path .full]
      (w.writeTable pace path records) ∧
    w.writeTable pace path records = w.writeRecords path records .csv ∧
    ((w.writeTable pace path records).2 = .error (.io path .full) ↔
      (∀ d ∈ (TableWriter.ofRecords pace w records).1.drained, d.2 = true) ∧
        ((TableWriter.ofRecords pace w records).1.drain pace).2 = false) ∧
    ∀ d ∈ (TableWriter.ofRecords pace w records).1.drained, TableWriter.IsFull d.1 := by
  refine ⟨fun parts hparts => ⟨?_, writeDocument_eq pace w path hparts⟩,
    writeTable_wholeOrFails pace w path records, writeTable_eq_writeRecords pace w path records,
    writeTable_io_iff pace w path records, ?_⟩
  · rw [← hparts]
    exact writeDocument_wholeOrFails pace w path parts records.length
  · have hgoes := TableWriter.goes_ofRecords pace w records
    generalize TableWriter.ofRecords pace w records = out at hgoes ⊢
    cases hgoes with
    | on hsound => exact hsound.full
    | short hshort => exact hshort.full

/-- A record without a message. -/
def sample : Record where
  id := ⟨1⟩
  timestamp := { date := ⟨2022, 7, 9, by decide, by decide, by decide⟩, time := .midnight }
  level := "INFO"

/-- Many records, for a writer with room for one buffer and a bit more: of their table it takes a
buffer whole, and then a row fails. Without records the names of the columns stay in the buffer to
the end. -/
theorem exports_whole_or_fails_manyRows :
    let pace : Pace := fun _ _ => 0
    let w : BoundedWriter := { room := 10000 }
    let records := List.replicate 20000 sample
    let parts := (exportBytes records .json).map fun b => [b]
    parts.flatten = exportBytes records .json ∧
      (w.writeDocument pace ⟨"out.json"⟩ parts records.length).2 =
        .error (.json ⟨"out.json"⟩ .full) ∧
      (w.writeDocument pace ⟨"out.json"⟩ parts records.length).1.taken =
        (exportBytes records .json).take 10000 ∧
      (w.writeTable pace ⟨"out.csv"⟩ records).2 = .error (.csv ⟨"out.csv"⟩ .full) ∧
      (w.writeTable pace ⟨"out.csv"⟩ records).1.taken = (exportBytes records .csv).take 10000 ∧
      (∀ whole, ∃ d ∈ (TableWriter.ofRecords pace w records).1.drained,
        TableWriter.IsFull d.1 ∧ d.2 = whole) ∧
      (({ room := 1 } : BoundedWriter).writeTable pace ⟨"out.csv"⟩ []).2 =
        .error (.io ⟨"out.csv"⟩ .full) ∧
      ((TableWriter.ofRecords pace { room := 1 } []).1.drain pace).2 = false := by
  intro pace w records parts
  have hparts : parts.flatten = exportBytes records .json := by
    rw [← List.flatMap_def, List.flatMap_singleton']
  have hlength : ∀ format, 20000 ≤ (exportBytes records format).length := by
    intro format
    have hlength := length_le_exportBytes records format
    rwa [List.length_replicate] at hlength
  have hbuffer : bufferSize ≤ w.room := by decide
  have hshort : ∀ format, w.room + bufferSize < (exportBytes records format).length :=
    fun format => Nat.lt_of_lt_of_le (by decide) (hlength format)
  have hroom : ∀ format, w.room < (exportBytes records format).length :=
    fun format => Nat.lt_of_le_of_lt (Nat.le_add_right _ _) (hshort format)
  obtain ⟨hrow, hdrained⟩ := TableWriter.drained_of_lt pace hbuffer (hshort .csv)
  obtain ⟨hdocument, -⟩ := exports_whole_or_fails pace w ⟨"out.json"⟩ records
  obtain ⟨hwhole, -⟩ := hdocument parts hparts
  obtain ⟨e, he, hfailed⟩ := hwhole.failed (hroom .json)
  rw [List.mem_singleton.1 he] at hfailed
  obtain ⟨-, htable, -, -, hfull⟩ := exports_whole_or_fails pace w ⟨"out.csv"⟩ records
  have hend : (({ room := 1 } : BoundedWriter).writeTable pace ⟨"out.csv"⟩ []).2 =
      .error (.io ⟨"out.csv"⟩ .full) := by
    have hcsv : ¬ (exportBytes [] .csv).length ≤ 1 := by decide +kernel
    have hrows : (TableWriter.ofRecords pace { room := 1 } []).2 = true := by decide +kernel
    rw [writeTable_eq, if_neg hcsv, if_pos hrows]
  obtain ⟨-, -, -, hio, -⟩ := exports_whole_or_fails pace { room := 1 } ⟨"out.csv"⟩ []
  refine ⟨hparts, hfailed, (hwhole.cut (hroom .json)).trans (List.nil_append _), ?_,
    (htable.cut (hroom .csv)).trans (List.nil_append _), ?_, hend, (hio.1 hend).2⟩
  · rw [writeTable_eq, if_neg (Nat.not_le_of_lt (hroom .csv)), hrow]
    rfl
  · intro whole
    obtain ⟨d, hd, hd'⟩ := hdrained whole
    exact ⟨d, hd, hfull d hd, hd'⟩

end BoundedWriter

end LogDigest
