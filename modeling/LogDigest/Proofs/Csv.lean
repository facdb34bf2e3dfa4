import LogDigest.Proofs.Bounded
import LogDigest.Proofs.Document
import LogDigest.Proofs.Permissive

/-!
# Tables are read back cell for cell

A table of records is read as the row of names and one row for every record, in their order,
whatever characters stand in their texts (`export_reads_back`).

**The reader** (`read?`) goes through the text once, one character a step, and knows nothing of how
tables are written: a comma ends a cell and a line feed ends a row unless they stand between quotes,
and two quotes between quotes are one. What is written otherwise is refused: a quote inside a cell
without quotes, a carriage return outside of quotes, text behind the closing quote, and an end in
the middle of a row.

**The cells** (`cellOf`). A row shows a record member for member, in the order of its document.
-/

namespace LogDigest.Csv

/-! ## Reading -/

/-- Where the reader of a table stands in a cell. -/
inductive Spot where
  /-- Before its first character. -/
  | fresh
  /-- Inside a cell without quotes. -/
  | bare
  /-- Between quotes. -/
  | quoted
  /-- Behind a quote that closes the cell or is the first of two. -/
  | closing
deriving DecidableEq, Repr

/-- What the reader of a table has read: rows, cells of the next row, and part of the next cell. -/
structure Reader where
  spot : Spot := .fresh
  cell : List Char := []
  row : List String := []
  rows : List (List String) := []
deriving DecidableEq, Repr

namespace Reader

/-- Reads a character, unless it may not stand there. -/
def step? (r : Reader) (c : Char) : Option Reader :=
  if r.spot = .quoted then
    if c = '"' then some { r with spot := .closing }
    else some { r with cell := r.cell ++ [c] }
  else if c = ',' then some { row := r.row ++ [String.ofList r.cell], rows := r.rows }
  else if c = '\n' then some { rows := r.rows ++ [r.row ++ [String.ofList r.cell]] }
  else if c = '"' then
    match r.spot with
    | .fresh => some { r with spot := .quoted }
    | .closing => some { r with spot := .quoted, cell := r.cell ++ ['"'] }
    | _ => none
  else if c = '\r' ∨ r.spot = .closing then none
  else some { r with spot := .bare, cell := r.cell ++ [c] }

/-- Reads characters. -/
def run? (r : Reader) (s : List Char) : Option Reader := s.foldlM step? r

end Reader

/-- Reads a table, every row of which ends with a line feed. -/
def read? (s : List Char) : Option (List (List String)) :=
  ((({} : Reader).run? s).filter fun r => r.spot = .fresh ∧ r.row = []).map Reader.rows

/-! ## Steps and runs -/

namespace Reader

theorem run?_nil (r : Reader) : r.run? [] = some r := rfl

theorem run?_singleton (r : Reader) (c : Char) : r.run? [c] = r.step? c := by
  simp only [run?, List.foldlM_cons, List.foldlM_nil, bind_pure]

theorem run?_append (r : Reader) (s t : List Char) :
    r.run? (s ++ t) = (r.run? s).bind fun r => r.run? t :=
  List.foldlM_append

variable {spot : Spot} {cell : List Char} {row : List String} {rows : List (List String)}

theorem step?_comma (h : spot ≠ .quoted) :
    step? ⟨spot, cell, row, rows⟩ ',' = some ⟨.fresh, [], row ++ [String.ofList cell], rows⟩ := by
  rw [step?, if_neg h, if_pos rfl]

theorem step?_newline (h : spot ≠ .quoted) :
    step? ⟨spot, cell, row, rows⟩ '\n' =
      some ⟨.fresh, [], [], rows ++ [row ++ [String.ofList cell]]⟩ := by
  rw [step?, if_neg h, if_neg (by decide), if_pos rfl]

theorem step?_bare {c : Char} (hspot : spot = .fresh ∨ spot = .bare)
    (hc : needsQuotes [c] = false) :
    step? ⟨spot, cell, row, rows⟩ c = some ⟨.bare, cell ++ [c], row, rows⟩ := by
  have hne : c ≠ ',' ∧ c ≠ '"' ∧ c ≠ '\r' ∧ c ≠ '\n' := by
    simpa [needsQuotes, and_assoc] using hc
  have hopen : spot ≠ .quoted ∧ spot ≠ .closing := by
    rcases hspot with rfl | rfl <;> decide
  rw [step?, if_neg hopen.1, if_neg hne.1, if_neg hne.2.2.2, if_neg hne.2.1,
    if_neg (not_or.2 ⟨hne.2.2.1, hopen.2⟩)]

theorem run?_quotedChar (c : Char) :
    run? ⟨.quoted, cell, row, rows⟩ (quotedChar c) = some ⟨.quoted, cell ++ [c], row, rows⟩ := by
  rw [quotedChar]
  by_cases hc : c = '"'
  · subst hc
    rfl
  · rw [if_neg hc, run?_singleton, step?, if_pos rfl, if_neg hc]

/-- Between quotes any text is read as itself. -/
theorem run?_quoted (s : List Char) :
    run? ⟨.quoted, cell, row, rows⟩ (s.flatMap quotedChar) =
      some ⟨.quoted, cell ++ s, row, rows⟩ := by
  induction s generalizing cell with
  | nil => rw [List.flatMap_nil, run?_nil, List.append_nil]
  | cons c s ih =>
    rw [List.flatMap_cons, run?_append, run?_quotedChar, Option.bind_some, ih, List.append_assoc,
      List.singleton_append]

/-- Without quotes a text is read as itself if it needs none. -/
theorem run?_bare {s : List Char} (hspot : spot = .fresh ∨ spot = .bare)
    (hs : needsQuotes s = false) :
    ∃ spot', spot' ≠ .quoted ∧
      run? ⟨spot, cell, row, rows⟩ s = some ⟨spot', cell ++ s, row, rows⟩ := by
  induction s generalizing spot cell with
  | nil =>
    refine ⟨spot, ?_, ?_⟩
    · rcases hspot with rfl | rfl <;> decide
    · rw [run?_nil, List.append_nil]
  | cons c s ih =>
    rw [needsQuotes, List.any_cons, Bool.or_eq_false_iff] at hs
    have hc : needsQuotes [c] = false := by
      rw [needsQuotes, List.any_cons, hs.1, List.any_nil, Bool.or_false]
    have htail : ∃ spot', spot' ≠ .quoted ∧
        run? ⟨.bare, cell ++ [c], row, rows⟩ s = some ⟨spot', cell ++ [c] ++ s, row, rows⟩ :=
      ih (Or.inr rfl) hs.2
    obtain ⟨spot', hne, hrun⟩ := htail
    refine ⟨spot', hne, ?_⟩
    rw [← List.singleton_append, run?_append, run?_singleton, step?_bare hspot hc,
      Option.bind_some, hrun, List.append_assoc]

end Reader

/-! ## Written tables -/

/-- A written cell is read as its text, and neither stays open nor ends the row. -/
theorem run?_cellTokens (cell : List Char) (row : List String) (rows : List (List String)) :
    ∃ spot, spot ≠ .quoted ∧
      Reader.run? ⟨.fresh, [], row, rows⟩ (cellTokens cell).flatten =
        some ⟨spot, cell, row, rows⟩ := by
  rw [cellTokens]
  by_cases h : needsQuotes cell = true
  · have htext : (['"'] :: cell.map quotedChar ++ [['"']]).flatten =
        ['"'] ++ (cell.flatMap quotedChar ++ ['"']) := by
      simp [List.flatMap_def]
    refine ⟨.closing, by decide, ?_⟩
    have hopen : Reader.run? ⟨.fresh, [], row, rows⟩ ['"'] = some ⟨.quoted, [], row, rows⟩ := rfl
    rw [if_pos h, htext, Reader.run?_append, hopen, Option.bind_some, Reader.run?_append,
      Reader.run?_quoted]
    rfl
  · have htext : (cell.map fun c => [c]).flatten = cell := by
      rw [← List.flatMap_def, List.flatMap_singleton']
    rw [if_neg h, htext]
    exact Reader.run?_bare (Or.inl rfl) (Bool.eq_false_iff.2 h)

theorem run?_rowTokens {cells : List String} (hne : cells ≠ []) (row : List String)
    (rows : List (List String)) :
    Reader.run? ⟨.fresh, [], row, rows⟩ (rowTokens cells).flatten =
      some ⟨.fresh, [], [], rows ++ [row ++ cells]⟩ := by
  induction cells generalizing row with
  | nil => exact absurd rfl hne
  | cons cell cells ih =>
    obtain ⟨spot, hspot, hcell⟩ := run?_cellTokens cell.toList row rows
    cases cells with
    | nil =>
      have htext : (rowTokens [cell]).flatten = (cellTokens cell.toList).flatten ++ ['\n'] := by
        simp [rowTokens]
      rw [htext, Reader.run?_append, hcell, Option.bind_some, Reader.run?_singleton,
        Reader.step?_newline hspot, String.ofList_toList]
    | cons next cells =>
      have htext : (rowTokens (cell :: next :: cells)).flatten =
          (cellTokens cell.toList).flatten ++ ([','] ++ (rowTokens (next :: cells)).flatten) := by
        simp [rowTokens, List.intercalate_cons_cons]
      rw [htext, Reader.run?_append, hcell, Option.bind_some, Reader.run?_append,
        Reader.run?_singleton, Reader.step?_comma hspot, Option.bind_some, String.ofList_toList,
        ih (List.cons_ne_nil _ _), List.append_assoc, List.singleton_append]

/-- Written rows are read as what they were before, behind the rows that were read. -/
theorem run?_tokens {rows' : List (List String)} (hne : ∀ row ∈ rows', row ≠ [])
    (rows : List (List String)) :
    Reader.run? ⟨.fresh, [], [], rows⟩ (tokens rows').flatten =
      some ⟨.fresh, [], [], rows ++ rows'⟩ := by
  induction rows' generalizing rows with
  | nil => rw [List.append_nil]; rfl
  | cons row rows' ih =>
    rw [List.forall_mem_cons] at hne
    rw [tokens, List.flatMap_cons, List.flatten_append, Reader.run?_append,
      run?_rowTokens hne.1, Option.bind_some, List.nil_append]
    exact (ih hne.2 _).trans (by rw [List.append_assoc, List.singleton_append])

/-- **A table is read as its rows**, whatever stands in their cells. -/
theorem read?_text {rows : List (List String)} (hne : ∀ row ∈ rows, row ≠ []) :
    read? (text rows) = some rows := by
  have hrun : ({} : Reader).run? (text rows) = some ⟨.fresh, [], [], rows⟩ :=
    run?_tokens hne []
  rw [read?, hrun]
  rfl

/-! ## The cells of a record -/

/-- What a cell shows of a value. -/
def cellText : Json → String
  | .string t => t
  | .number (.integer n) => toString n
  | _ => ""

/-- What a table shows of a record under the name of a member: its value, and of its timestamp no
more than whole milliseconds. -/
def cellOf (r : Record) (f : DocumentField) : String :=
  if f = .timestamp then r.timestamp.toMillis else cellText (r.member f)

theorem cellText_ofOption {α : Type} (f : α → Json) (o : Option α) :
    cellText (.ofOption f o) = (o.map fun a => cellText (f a)).getD "" := by
  cases o <;> rfl

/-- A row has a cell for each member, in the order of the members. -/
theorem cells_eq (r : Record) : cells r = DocumentField.all.map (cellOf r) := by
  have htext (o : Option String) : cellText (.ofOption .string o) = o.getD "" := by
    cases o <;> rfl
  simp only [DocumentField.all, List.map_cons, List.map_nil, cellOf, Record.member, reduceCtorEq,
    if_true, if_false, htext, cellText_ofOption]
  rfl

theorem rows_eq (records : List Record) :
    rows records = DocumentField.all.map DocumentField.name ::
      records.map fun r => DocumentField.all.map (cellOf r) := by
  have hrows : records.map cells = records.map fun r => DocumentField.all.map (cellOf r) :=
    List.map_congr_left fun r _ => cells_eq r
  rw [rows, hrows]
  rfl

theorem toString_ne_empty (n : Int) : toString n ≠ "" := by
  intro h
  have hread := Text.integer?_toString n
  rw [h] at hread
  cases hread

theorem toMillis_ne_empty (t : Timestamp) : t.toMillis ≠ "" := by
  intro h
  have hread := t.ofText?_toMillis
  rw [h] at hread
  cases hread

theorem interchange_ne_empty (t : Timestamp) : t.interchange ≠ "" := by
  intro h
  have hread := t.ofInterchange_interchange
  rw [h] at hread
  cases hread

theorem cellText_eq_empty_iff {v : Json} (h : v.Flat) :
    cellText v = "" ↔ v = .null ∨ v = .string "" := by
  cases h with
  | null => exact ⟨fun _ => .inl rfl, fun _ => rfl⟩
  | string t => simp [cellText]
  | int hn =>
    refine ⟨fun hempty => absurd hempty (toString_ne_empty _), ?_⟩
    rintro (hnull | hempty)
    · cases hnull
    · cases hempty

theorem cellOf_eq_empty_iff (r : Record) (f : DocumentField) :
    cellOf r f = "" ↔ r.member f = .null ∨ r.member f = .string "" := by
  rw [cellOf]
  by_cases hf : f = .timestamp
  · subst hf
    rw [if_pos rfl]
    refine ⟨fun h => absurd h (toMillis_ne_empty _), ?_⟩
    rintro (h | h)
    · cases h
    · exact absurd (Json.string.inj h) (interchange_ne_empty _)
  · rw [if_neg hf]
    exact cellText_eq_empty_iff (r.flat_member f)

/-! ## Exports -/

/-- Every row of a table has as many cells as there are columns. -/
theorem length_of_mem_rows {records : List Record} {row : List String} (h : row ∈ rows records) :
    row.length = header.length := by
  rcases List.mem_cons.1 h with rfl | h
  · rfl
  · obtain ⟨r, -, rfl⟩ := List.mem_map.1 h
    rfl

theorem ne_nil_of_mem_rows {records : List Record} : ∀ row ∈ rows records, row ≠ [] := by
  rintro row hrow rfl
  cases length_of_mem_rows hrow

/-- **Tables are read back cell for cell.** The bytes of an exported table are those of a text that
is read as the names of the members and, for every record in its order, what it shows of them. A
cell is empty only for what is absent or empty, and a timestamp is told up to its whole
milliseconds, as clocks show them. A writer with room for the table takes its bytes, and all records
are counted. -/
theorem export_reads_back (records : List Record) :
    (Utf8.strict? (exportBytes records .csv)).bind read? =
        some (DocumentField.all.map DocumentField.name ::
          records.map fun r => DocumentField.all.map (cellOf r)) ∧
      (∀ r : Record,
        (∀ f, cellOf r f = "" ↔ r.member f = .null ∨ r.member f = .string "") ∧
          Timestamp.ofText? (cellOf r .timestamp).toList = some r.timestamp.wholeMillis.shown ∧
          (r.timestamp.wholeMillis.shown = r.timestamp.wholeMillis ↔ r.timestamp.time.IsShown)) ∧
      ∀ (path : Path) (w : BoundedWriter), (exportBytes records .csv).length ≤ w.room →
        w.writeRecords path records .csv =
          (w.take (exportBytes records .csv), .ok records.length) := by
  refine ⟨?_, ?_, ?_⟩
  · rw [exportBytes, Utf8.strict?_encode, Option.bind_some, exportText,
      read?_text ne_nil_of_mem_rows, rows_eq]
  · intro r
    exact ⟨cellOf_eq_empty_iff r, r.timestamp.ofText?_toMillis, Timestamp.shown_wholeMillis_eq_iff⟩
  · intro path w h
    exact BoundedWriter.writeRecords_of_le path records .csv h

/-- A record whose texts hold what tables are made of. -/
def awkward : Record :=
  { Record.brief with
    level := "\"\","
    message := "\r\n"
    sourceIp := some ""
    user := some "\u2028é" }

theorem export_reads_back_awkward :
    (Utf8.strict? (exportBytes [awkward] .csv)).bind read? =
        some [header, ["7", "-0001-06-30 23:59:60.000", "\"\",", "\r\n", "", "", "-1",
          "-9223372036854775808", "", "\u2028é", "18446744073709551615"]] ∧
      (BoundedWriter.writeRecords ⟨200, []⟩ ⟨"out.csv"⟩ [awkward] .csv).2 = .ok 1 := by
  have hroom : (exportBytes [awkward] .csv).length ≤ 200 := by decide +kernel
  obtain ⟨hread, -, hwrite⟩ := export_reads_back [awkward]
  have hcells : DocumentField.all.map (cellOf awkward) =
      ["7", "-0001-06-30 23:59:60.000", "\"\",", "\r\n", "", "", "-1", "-9223372036854775808",
        "", "\u2028é", "18446744073709551615"] := by
    decide +kernel
  constructor
  · rw [hread, List.map_singleton, hcells]
    rfl
  · rw [hwrite _ _ hroom]
    rfl

end LogDigest.Csv
