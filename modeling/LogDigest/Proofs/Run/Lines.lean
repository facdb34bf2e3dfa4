import LogDigest.Proofs.Line.Batch
import LogDigest.Proofs.Run.Returns

/-!
# Every line of a log is read by itself

The bytes of a log are lines with their ends (`LogFile`). Whether these bytes are text or not,
reading them as one text and this text line by line gives the same as reading every line by itself,
and the ends of the lines do not matter (`LogFile.read_lineByLine`). So a line with broken bytes
spoils no other line.

**From bytes to lines.** An end of a line begins with an ASCII byte, where decoding begins anew. So
the first line of a text is decoded from the bytes of the first line and no others, up to a carriage
return at its end, which no shape of lines cares about.
-/

namespace LogDigest

open Text

/-! ## Bytes of a log -/

/-- The bytes of a line: no line feed is among them. -/
structure ByteLine where
  bytes : List UInt8
  newline_not_mem : (10 : UInt8) ∉ bytes

/-- What ends a line. -/
inductive LineEnd where
  | newline
  | returnNewline
deriving DecidableEq, Repr

def LineEnd.bytes : LineEnd → List UInt8
  | newline => [10]
  | returnNewline => [13, 10]

/-- The lines of a log with their ends, and perhaps a last line without an end, which then is not
empty. -/
structure LogFile where
  ended : List (ByteLine × LineEnd)
  last : Option { line : ByteLine // line.bytes ≠ [] }

/-- What a line says by itself. -/
def ByteLine.read? (shape : LineShape) (line : ByteLine) : Option Entry :=
  shape.read? (Utf8.lossy line.bytes)

theorem ByteLine.newline_not_mem_lossy (line : ByteLine) : '\n' ∉ Utf8.lossy line.bytes :=
  fun h => line.newline_not_mem (Utf8.newline_mem_lossy h)

namespace LogFile

/-- The bytes of the log, one line behind the other. -/
def bytes (f : LogFile) : List UInt8 :=
  f.ended.flatMap (fun line => line.1.bytes ++ line.2.bytes) ++
    f.last.toList.flatMap fun line => line.1.bytes

def lines (f : LogFile) : List ByteLine := f.ended.map Prod.fst ++ f.last.toList.map Subtype.val

/-- How many lines there are, how many of them are entries, and how many are not. -/
def counts (shape : LineShape) (f : LogFile) : TextStats where
  lines := f.lines.length
  parsed := f.lines.countP fun line => (line.read? shape).isSome
  discarded := f.lines.countP fun line => (line.read? shape).isNone

/-! ## From bytes to lines -/

/-- The first line of a log is read by itself. -/
theorem map_read?_ended (shape : LineShape) (line : ByteLine) (ending : LineEnd)
    (bs : List UInt8) :
    (Text.lines (Utf8.lossy (line.bytes ++ ending.bytes ++ bs))).map shape.read? =
      line.read? shape :: (Text.lines (Utf8.lossy bs)).map shape.read? := by
  have hnewline := line.newline_not_mem_lossy
  cases ending with
  | newline =>
    have hlossy : Utf8.lossy (line.bytes ++ LineEnd.newline.bytes ++ bs) =
        Utf8.lossy line.bytes ++ '\n' :: Utf8.lossy bs := by
      rw [List.append_assoc]
      exact Utf8.lossy_append_ascii (by decide) _ _
    rw [hlossy, lines_append_newline hnewline, List.map_cons, shape.read?_chomp]
    rfl
  | returnNewline =>
    have hlossy : Utf8.lossy (line.bytes ++ LineEnd.returnNewline.bytes ++ bs) =
        (Utf8.lossy line.bytes ++ ['\r']) ++ '\n' :: Utf8.lossy bs := by
      have hreturn := Utf8.lossy_append_ascii (b := 13) (by decide) line.bytes (10 :: bs)
      have hfeed := Utf8.lossy_append_ascii (b := 10) (by decide) [] bs
      rw [List.append_assoc, List.append_assoc]
      exact hreturn.trans (congrArg (fun s => Utf8.lossy line.bytes ++ '\r' :: s) hfeed)
    have hnewline' : '\n' ∉ Utf8.lossy line.bytes ++ ['\r'] := by simpa using hnewline
    rw [hlossy, lines_append_newline hnewline', chomp_append_return, List.map_cons]
    rfl

theorem map_read?_lines (shape : LineShape) (f : LogFile) :
    (Text.lines (Utf8.lossy f.bytes)).map shape.read? = f.lines.map (ByteLine.read? shape) := by
  obtain ⟨ended, last⟩ := f
  induction ended with
  | nil =>
    cases last with
    | none => rfl
    | some line =>
      obtain ⟨line, hne⟩ := line
      have hbytes : bytes ⟨[], some ⟨line, hne⟩⟩ = line.bytes := by
        simp [bytes]
      rw [hbytes, lines_of_newline_not_mem line.newline_not_mem_lossy (Utf8.lossy_ne_nil hne)]
      rfl
  | cons line ended ih =>
    have hbytes : bytes ⟨line :: ended, last⟩ =
        line.1.bytes ++ line.2.bytes ++ bytes ⟨ended, last⟩ := by
      simp only [bytes, List.flatMap_cons, List.append_assoc]
    rw [hbytes, map_read?_ended, ih]
    rfl

theorem filterMap_read?_lines (shape : LineShape) (f : LogFile) :
    (Text.lines (Utf8.lossy f.bytes)).filterMap shape.read? =
      f.lines.filterMap (ByteLine.read? shape) :=
  calc (Text.lines (Utf8.lossy f.bytes)).filterMap shape.read?
      = ((Text.lines (Utf8.lossy f.bytes)).map shape.read?).filterMap id := by
        rw [List.filterMap_map, Function.id_comp]
    _ = (f.lines.map (ByteLine.read? shape)).filterMap id := by rw [f.map_read?_lines]
    _ = f.lines.filterMap (ByteLine.read? shape) := by rw [List.filterMap_map, Function.id_comp]

theorem stats_ofText (shape : LineShape) (f : LogFile) :
    (Batch.ofText shape.read? (Utf8.lossy f.bytes)).stats = f.counts shape := by
  have hlines : (Text.lines (Utf8.lossy f.bytes)).length = f.lines.length := by
    rw [← List.length_map (f := shape.read?), f.map_read?_lines, List.length_map]
  have hparsed : (f.lines.filterMap (ByteLine.read? shape)).length =
      f.lines.countP fun line => (line.read? shape).isSome := List.length_filterMap_eq_countP
  have hdiscarded : f.lines.length =
      (f.lines.countP fun line => (line.read? shape).isSome) +
        f.lines.countP fun line => (line.read? shape).isNone := by
    rw [List.length_eq_countP_add_countP fun line => (line.read? shape).isSome]
    refine congrArg _ (List.countP_congr fun line _ => ?_)
    cases line.read? shape <;> simp
  rw [Batch.stats_ofText, f.filterMap_read?_lines, hlines, hparsed, counts]
  simp only [TextStats.mk.injEq, true_and]
  omega

theorem entries_ofText {shape : LineShape} {f : LogFile} {before after : List ByteLine}
    {line : ByteLine} (h : f.lines = before ++ line :: after) :
    (Batch.ofText shape.read? (Utf8.lossy f.bytes)).entries =
      before.filterMap (ByteLine.read? shape) ++ (line.read? shape).toList ++
        after.filterMap (ByteLine.read? shape) := by
  rw [Batch.entries_ofText, f.filterMap_read?_lines, h, List.filterMap_append, List.append_assoc]
  cases hline : line.read? shape with
  | none => rw [List.filterMap_cons_none hline, Option.toList_none, List.nil_append]
  | some e => rw [List.filterMap_cons_some hline, Option.toList_some, List.singleton_append]

end LogFile

/-! ## Reading in a run -/

theorem IdCounter.length_mintAll (ids : IdCounter) (es : List Entry) :
    (ids.mintAll es).1.length = es.length := by
  induction es generalizing ids with
  | nil => rfl
  | cons e es ih => exact congrArg Nat.succ (ih _)

namespace Run

variable {σ : Type} {stages : Stages σ} {r : Run σ} {source : Path}

/-- The run can read these bytes: nobody cancelled it, and the storage has them at the source. The
lines are read by the standard parser. -/
structure Offered (stages : Stages σ) (r : Run σ) (source : Path) (bytes : List UInt8) :
    Prop where
  parser : stages.parser = none
  path : source.isEmpty = false
  flag : r.flag = false
  text : stages.read r.store source = .pure (Utf8.lossy bytes)

theorem offered_inMemory {now : Timestamp} {r : Run Memory} {bytes : List UInt8}
    (hpath : source.isEmpty = false) (hflag : r.flag = false)
    (hread : r.store.read source = .ok bytes) : Offered (.inMemory now) r source bytes where
  parser := rfl
  path := hpath
  flag := hflag
  text := by
    dsimp only [Stages.inMemory]
    rw [hread]
    rfl

theorem returns_readText {bytes : List UInt8} (h : Offered stages r source bytes) :
    Returns (readText stages source) r (Utf8.lossy bytes) fun r' =>
      r'.flag = false ∧ r'.ids = r.ids := by
  refine Returns.bind (a := .pure (Utf8.lossy bytes))
    (P := fun r' => r'.flag = false ∧ r'.ids = r.ids)
    (returns_modifyGet h.text ⟨h.flag, rfl⟩) fun r₁ h₁ => ?_
  refine returns_perform rfl ⟨?_, h₁.2⟩
  rw [hear, h₁.1]
  rfl

/-- Reading keeps the records of the lines, with the next identities, and their counts. -/
theorem returns_readSource {bytes : List UInt8} (h : Offered stages r source bytes)
    (shape : LineShape) :
    Returns (readSource stages source shape) r () fun r' =>
      r'.records =
          (r.ids.mintAll ((Text.lines (Utf8.lossy bytes)).filterMap shape.read?)).1 ∧
        r'.stats = (Batch.ofText shape.read? (Utf8.lossy bytes)).stats := by
  refine (returns_checkPath (P := fun r' => r' = r) h.path rfl).bind fun r₁ h₁ => ?_
  subst h₁
  refine (returns_checkFlag (P := fun r' => r' = r₁) h.flag rfl).bind fun r₂ h₂ => ?_
  subst h₂
  refine (returns_readText h).bind fun r₃ h₃ => ?_
  refine (returns_checkFlag (P := fun r' => r'.ids = r₂.ids) h₃.1 h₃.2).bind fun r₄ h₄ => ?_
  rw [h.parser, Option.getD_none, ← h₄]
  refine (returns_readLines shape (Text.lines (Utf8.lossy bytes)) 1 []).bind fun r₅ _ => ?_
  refine (returns_modify (P := fun _ => True) trivial).bind fun r₆ _ => ?_
  refine returns_modify ⟨rfl, ?_⟩
  rw [Batch.stats_ofText]
  simp only [IdCounter.length_mintAll]

end Run

/-! ## Line by line -/

namespace LogFile

/-- **Reading is line by line.** Whatever the bytes of the lines are and however they end, the
entries of a log in their order are those of its lines, each decoded and read by itself, and the
counts are the numbers of lines, of lines that are entries and of lines that are not. A run keeps
these entries as records with the next identities, and these counts. So two logs that differ in one
line differ at most in the entry of that line. -/
theorem read_lineByLine {σ : Type} (shape : LineShape) (f : LogFile) :
    (Batch.ofText shape.read? (Utf8.lossy f.bytes)).map (·.entry) =
        f.lines.map (ByteLine.read? shape) ∧
      (Batch.ofText shape.read? (Utf8.lossy f.bytes)).stats = f.counts shape ∧
      (∀ (stages : Stages σ) (source : Path) (r : Run σ), Run.Offered stages r source f.bytes →
        Run.Returns (Run.readSource stages source shape) r () fun r' =>
          r'.records = (r.ids.mintAll (f.lines.filterMap (ByteLine.read? shape))).1 ∧
            r'.stats = f.counts shape) ∧
      ∀ (g : LogFile) (before after : List ByteLine) (line line' : ByteLine),
        f.lines = before ++ line :: after → g.lines = before ++ line' :: after →
        ∃ es es', (Batch.ofText shape.read? (Utf8.lossy f.bytes)).entries =
            es ++ (line.read? shape).toList ++ es' ∧
          (Batch.ofText shape.read? (Utf8.lossy g.bytes)).entries =
            es ++ (line'.read? shape).toList ++ es' := by
  refine ⟨?_, f.stats_ofText shape, fun stages source r h => ?_, ?_⟩
  · rw [Batch.map_entry_ofText, f.map_read?_lines]
  · rw [← f.filterMap_read?_lines, ← f.stats_ofText]
    exact Run.returns_readSource h shape
  · intro g before after line line' hf hg
    exact ⟨_, _, entries_ofText hf, entries_ofText hg⟩

def startLine : ByteLine where
  bytes := Utf8.encode "2024-01-15 10:30:00 Info started".toList
  newline_not_mem := by decide +kernel

/-- A line of bytes that are no text: a character is begun and not ended. -/
def brokenLine : ByteLine where
  bytes := [0xE2, 0x82]
  newline_not_mem := by decide

/-- A log whose second line is broken, with one end of each kind and a last line without one. -/
def brokenLog : LogFile where
  ended := [(startLine, .newline), (brokenLine, .returnNewline)]
  last := some ⟨startLine, by decide +kernel⟩

/-- The same log with an entry in the place of the broken line. -/
def mendedLog : LogFile where
  ended := [(startLine, .newline), (startLine, .newline)]
  last := some ⟨startLine, by decide +kernel⟩

/-- A broken line is discarded, and the lines before and behind it are read as they would be behind
any other line. -/
theorem read_lineByLine_brokenLog :
    let now : Timestamp :=
      { date :=
          { year := 2024, month := 1, day := 1, year_mem := by decide, month_mem := by decide,
            day_mem := by decide }
        time := .midnight }
    let r : Run Memory := { store := ({} : Memory).provide ⟨"app.log"⟩ brokenLog.bytes }
    Run.Offered (.inMemory now) r ⟨"app.log"⟩ brokenLog.bytes ∧
      (Run.Returns (Run.readSource (.inMemory now) ⟨"app.log"⟩ .auto) r () fun r' =>
        r'.records.length = 2 ∧ r'.stats = { lines := 3, parsed := 2, discarded := 1 }) ∧
      ∃ es es', (Batch.ofText LineShape.auto.read? (Utf8.lossy brokenLog.bytes)).entries =
          es ++ es' ∧
        (Batch.ofText LineShape.auto.read? (Utf8.lossy mendedLog.bytes)).entries =
          es ++ (startLine.read? .auto).toList ++ es' := by
  intro now r
  have hoffered : Run.Offered (.inMemory now) r ⟨"app.log"⟩ brokenLog.bytes :=
    Run.offered_inMemory (by decide) rfl rfl
  have hbroken : brokenLine.read? .auto = none := by decide +kernel
  have hlength : (brokenLog.lines.filterMap (ByteLine.read? .auto)).length = 2 := by
    decide +kernel
  have hcounts : brokenLog.counts .auto = { lines := 3, parsed := 2, discarded := 1 } := by
    decide +kernel
  obtain ⟨-, -, hrun, hchange⟩ := @read_lineByLine Memory .auto brokenLog
  obtain ⟨es, es', hes, hes'⟩ :=
    hchange mendedLog [startLine] [startLine] brokenLine startLine rfl rfl
  obtain ⟨r', hr', hrecords, hstats⟩ := hrun (.inMemory now) ⟨"app.log"⟩ r hoffered
  refine ⟨hoffered, ⟨r', hr', ?_, hstats.trans hcounts⟩, es, es', ?_, hes'⟩
  · rw [hrecords, IdCounter.length_mintAll, hlength]
  · rw [hes, hbroken, Option.toList_none, List.append_nil]

end LogFile

end LogDigest
