import LogDigest.Proofs.Counting
import LogDigest.Proofs.Line.Batch
import LogDigest.Proofs.Line.Levels
import LogDigest.Proofs.Numeral
import LogDigest.Proofs.Permissive
import LogDigest.Summary.Report

/-!
# Reports can be read back

What a report says of some records can be read from its text alone (`ReportContent.ofText?`): when
it was made and the time range, both in the seconds that clocks show, the totals, and the counts of
the levels in their order. So two summaries with the same text differ at most in what their seconds
do not show (`Summary.reportText_determines`).

**Lines** (`Text.IsLine`). Every line of a report ends with a word, and no line feed stands in it if
there is none in the levels. Levels are parts of lines, so this is so for everything that is read
from a log.

**Levels** (`ReportContent.readLevel?_levelLine`). A level may hold anything else: colons, digits,
blanks. Its line is read from the end, where the count is the longest run of digits, and what is
left between the mark in front and the last colon is the level.

**Times.** A year may have a sign and more than four digits. But days and times are words, so they
are found by the blanks, and the reader of timestamps reads them.
-/

namespace LogDigest

open Text

/-! ## Whole seconds -/

namespace Timestamp

/-- The timestamp without the parts of its second. -/
def wholeSeconds (t : Timestamp) : Timestamp where
  date := t.date
  time := t.time.wholeSecond

/-- The timestamp with the second that a clock shows. -/
def shownSecond (t : Timestamp) : Timestamp where
  date := t.date
  time := t.time.shownSecond

theorem shownSecond_eq_wholeSeconds_iff {t : Timestamp} :
    t.shownSecond = t.wholeSeconds ↔ t.time.IsShown := by
  rw [← Time.shownSecond_eq_wholeSecond_iff, shownSecond, wholeSeconds]
  simp

theorem toList_toSeconds (t : Timestamp) :
    t.toSeconds.toList = t.date.text.toList ++ ' ' :: t.time.text.toList := by
  have hspace : " ".toList = [' '] := rfl
  simp only [toSeconds, String.toList_append, hspace, List.append_assoc, List.cons_append,
    List.nil_append]

/-- What a report shows of a timestamp is read as the second that a clock shows. -/
theorem ofText?_toSeconds (t : Timestamp) : ofText? t.toSeconds.toList = some t.shownSecond := by
  have hspaced : t.toSeconds.toList = t.wholeSeconds.spaced [] := by
    rw [toList_toSeconds, spaced, List.append_nil, wholeSeconds, t.time.text_wholeSecond]
  have hf : IsFraction t.wholeSeconds.time.nano [] := by
    rw [wholeSeconds, t.time.nano_wholeSecond]
    exact .whole
  rw [hspaced, ofText?_spaced hf]
  rfl

end Timestamp

/-- The seconds that clocks show of a range. -/
def TimeRange.shownSeconds (r : TimeRange) : TimeRange where
  earliest := r.earliest.shownSecond
  latest := r.latest.shownSecond

/-! ## Lines -/

namespace Text

/-- The text can be a line that a line feed ends. -/
structure IsLine (s : List Char) : Prop where
  newline_notMem : '\n' ∉ s
  chomp_eq : chomp s = s

theorem IsWord.newline_notMem {w : List Char} (h : IsWord w) : '\n' ∉ w :=
  fun hmem => absurd (h.2 '\n' hmem) (by decide)

theorem isLine_append_isWord {s w : List Char} (hs : '\n' ∉ s) (hw : IsWord w) :
    IsLine (s ++ w) := by
  have hreturn : (s ++ w).getLast? ≠ some '\r' := by
    obtain ⟨init, c, rfl⟩ := (List.eq_nil_or_concat w).resolve_left hw.1
    intro hlast
    rw [List.concat_eq_append, ← List.append_assoc, List.getLast?_concat] at hlast
    cases hlast
    exact absurd (hw.2 '\r' (by simp)) (by decide)
  refine ⟨fun hmem => ?_, by rw [chomp, if_neg hreturn]⟩
  exact (List.mem_append.1 hmem).elim hs hw.newline_notMem

/-- Lines that are ended by line feeds are the lines of the text. -/
theorem lines_flatMap {ls : List (List Char)} (h : ∀ l ∈ ls, IsLine l) :
    lines (ls.flatMap (· ++ ['\n'])) = ls := by
  induction ls with
  | nil => rfl
  | cons l ls ih =>
    have hl := h l List.mem_cons_self
    rw [List.flatMap_cons, List.append_assoc, List.singleton_append,
      lines_append_newline hl.newline_notMem, hl.chomp_eq,
      ih fun l hmem => h l (List.mem_cons_of_mem _ hmem)]

end Text

/-- No line feed stands in a level that was read from a text. -/
theorem Batch.newline_notMem_level {shape : LineShape} {text : List Char} {e : Entry}
    (h : e ∈ (Batch.ofText shape.read? text).entries) : '\n' ∉ e.level.toList := by
  rw [Batch.entries_ofText, List.mem_filterMap] at h
  obtain ⟨line, hline, hread⟩ := h
  exact fun hmem => newline_notMem_of_mem_lines hline ((LineShape.level_isInfix hread).mem hmem)

/-! ## Reading a report -/

/-- What the text of a report says. -/
structure ReportContent where
  generatedAt : Timestamp
  range : Option TimeRange
  errors : Nat
  warnings : Nat
  levels : List (String × Nat)
deriving DecidableEq, Repr

namespace ReportContent

open CombinedParts (after? after?_eq_some_iff)

/-- Reads when the report was made. -/
def readTitle? (line : List Char) : Option Timestamp :=
  (after? "Log Analysis Report as of ".toList line).bind Timestamp.ofText?

/-- Reads the time range, or that there is none. -/
def readRange? (line : List Char) : Option (Option TimeRange) :=
  if line = "Time Range: No logs available".toList then some none
  else
    (after? "Time Range: from ".toList line).bind fun s =>
      match words s with
      | [day, time, _, day', time'] => do
        let earliest ← Timestamp.ofText? (day ++ ' ' :: time)
        let latest ← Timestamp.ofText? (day' ++ ' ' :: time')
        return some { earliest, latest }
      | _ => none

/-- Reads a total behind its name. -/
def readTotal? (name : String) (line : List Char) : Option Nat :=
  (after? name.toList line).bind digits?

/-- Reads a level and its count: the digits at the end of the line. -/
def readLevel? (line : List Char) : Option (String × Nat) := do
  let s ← after? ['-', ' '] line
  let count ← digits? (s.reverse.takeWhile Char.isDigit).reverse
  let level ← after? [' ', ':'] (s.reverse.dropWhile Char.isDigit)
  return (String.ofList level.reverse, count)

def ofText? (body : String) : Option ReportContent :=
  match lines body.toList with
  | title :: range :: errors :: warnings :: _ :: levels => do
    let generatedAt ← readTitle? title
    let range ← readRange? range
    let errors ← readTotal? "Total Errors: " errors
    let warnings ← readTotal? "Total Warnings: " warnings
    let levels ← levels.mapM readLevel?
    return { generatedAt, range, errors, warnings, levels }
  | _ => none

theorem toList_toString (n : Nat) : (toString n).toList = Nat.toDigits 10 n :=
  toList_toString_ofNat n

theorem readTitle?_title (t : Timestamp) :
    readTitle? ("Log Analysis Report as of " ++ t.toSeconds).toList = some t.shownSecond := by
  rw [readTitle?, String.toList_append, after?_eq_some_iff.2 rfl, Option.bind_some,
    t.ofText?_toSeconds]

theorem words_toSeconds_to (t u : Timestamp) :
    words (t.toSeconds.toList ++ " to ".toList ++ u.toSeconds.toList) =
      [t.date.text.toList, t.time.text.toList, ['t', 'o'], u.date.text.toList,
        u.time.text.toList] := by
  have hto : " to ".toList = [' ', 't', 'o', ' '] := rfl
  have hword : IsWord ['t', 'o'] := by decide
  have hmiddle := words_isWord_append hword
  simp only [Timestamp.toList_toSeconds, hto, List.append_assoc, List.cons_append,
    List.nil_append] at hmiddle ⊢
  rw [words_isWord_append t.date.isWord_text, words_isWord_append t.time.isWord_text, hmiddle,
    words_isWord_append u.date.isWord_text, words_of_isWord u.time.isWord_text]

theorem readRange?_rangeLine (s : Summary) :
    readRange? s.rangeLine.toList = some (s.range.map TimeRange.shownSeconds) := by
  rw [Summary.rangeLine]
  cases s.range with
  | none => rfl
  | some r =>
    have hline : ("Time Range: from " ++ r.earliest.toSeconds ++ " to " ++
        r.latest.toSeconds).toList = "Time Range: from ".toList ++
          (r.earliest.toSeconds.toList ++ " to ".toList ++ r.latest.toSeconds.toList) := by
      simp only [String.toList_append, List.append_assoc]
    have hne : ¬ ("Time Range: from ".toList ++ (r.earliest.toSeconds.toList ++ " to ".toList ++
        r.latest.toSeconds.toList) = "Time Range: No logs available".toList) := by
      intro heq
      have hletter : some 'f' = some 'N' := congrArg (fun chars => chars[12]?) heq
      exact absurd hletter (by decide)
    dsimp only
    rw [readRange?, hline, if_neg hne, after?_eq_some_iff.2 rfl, Option.bind_some,
      words_toSeconds_to]
    dsimp only
    rw [← Timestamp.toList_toSeconds, ← Timestamp.toList_toSeconds, Timestamp.ofText?_toSeconds,
      Timestamp.ofText?_toSeconds]
    rfl

theorem readTotal?_total (name : String) (n : Nat) :
    readTotal? name (name ++ toString n).toList = some n := by
  rw [readTotal?, String.toList_append, after?_eq_some_iff.2 rfl, Option.bind_some,
    toList_toString, digits?_toDigits]

def levelLine (entry : String × Nat) : String := "- " ++ entry.1 ++ ": " ++ toString entry.2

theorem readLevel?_levelLine (entry : String × Nat) :
    readLevel? (levelLine entry).toList = some entry := by
  obtain ⟨level, count⟩ := entry
  have hline : (levelLine (level, count)).toList =
      ['-', ' '] ++ (level.toList ++ ':' :: ' ' :: Nat.toDigits 10 count) := by
    have hmark : "- ".toList = ['-', ' '] := rfl
    have hcolon : ": ".toList = [':', ' '] := rfl
    simp only [levelLine, String.toList_append, hmark, hcolon, toList_toString, List.append_assoc,
      List.cons_append, List.nil_append]
  have hback : (level.toList ++ ':' :: ' ' :: Nat.toDigits 10 count).reverse =
      (Nat.toDigits 10 count).reverse ++ ' ' :: ([':'] ++ level.toList.reverse) := by
    simp
  have hdigits : ∀ c ∈ (Nat.toDigits 10 count).reverse, c.isDigit = true :=
    fun c hc => isDigit_of_mem_toDigits (List.mem_reverse.1 hc)
  have hend : NoDigitNext (' ' :: ([':'] ++ level.toList.reverse)) :=
    noDigitNext_cons (by decide) _
  rw [readLevel?, hline, after?_eq_some_iff.2 rfl]
  simp only [Option.bind_eq_bind, Option.bind_some, hback]
  rw [takeWhile_isDigit_append hdigits hend, dropWhile_isDigit_append hdigits hend,
    List.reverse_reverse, digits?_toDigits]
  have hlevel : after? [' ', ':'] (' ' :: ([':'] ++ level.toList.reverse)) =
      some level.toList.reverse := after?_eq_some_iff.2 rfl
  rw [Option.bind_some, hlevel, Option.bind_some, List.reverse_reverse, String.ofList_toList]
  rfl

theorem mapM_readLevel? (entries : List (String × Nat)) :
    ((entries.map levelLine).map String.toList).mapM readLevel? = some entries := by
  induction entries with
  | nil => rfl
  | cons entry entries ih =>
    rw [List.map_cons, List.map_cons, List.mapM_cons, readLevel?_levelLine, ih]
    rfl

end ReportContent

/-! ## The lines of a report -/

namespace Summary

/-- What the text of a report made at this time says. -/
def content (s : Summary) (generatedAt : Timestamp) : ReportContent where
  generatedAt := generatedAt.shownSecond
  range := s.range.map TimeRange.shownSeconds
  errors := s.errors
  warnings := s.warnings
  levels := s.levels.entries

variable {s : Summary}

theorem toList_reportText (s : Summary) (t : Timestamp) :
    (s.reportText t).toList = ((s.reportLines t).map String.toList).flatMap (· ++ ['\n']) := by
  have hnewline : "\n".toList = ['\n'] := rfl
  rw [reportText, String.toList_join, List.flatMap_map, List.flatMap_map]
  simp only [String.toList_append, hnewline]

theorem reportLines_eq (s : Summary) (t : Timestamp) :
    s.reportLines t =
      ["Log Analysis Report as of " ++ t.toSeconds, s.rangeLine,
        "Total Errors: " ++ toString s.errors, "Total Warnings: " ++ toString s.warnings,
        "Log Level Distribution:"] ++ s.levels.entries.map ReportContent.levelLine := rfl

/-- What ends with a time can be a line. -/
theorem isLine_append_toSeconds {front : List Char} (h : '\n' ∉ front) (t : Timestamp) :
    IsLine (front ++ t.toSeconds.toList) := by
  have hday : '\n' ∉ front ++ (t.date.text.toList ++ [' ']) := by
    have hdate := t.date.isWord_text.newline_notMem
    simp [h, hdate]
  have hline := isLine_append_isWord hday t.time.isWord_text
  rwa [List.append_assoc, List.append_assoc, List.singleton_append, ← t.toList_toSeconds] at hline

/-- What ends with a number can be a line. -/
theorem isLine_append_toString {front : List Char} (h : '\n' ∉ front) (n : Nat) :
    IsLine (front ++ (toString n).toList) :=
  isLine_append_isWord h (isWord_toString (Int.ofNat n))

/-- No level spoils the lines of a report unless it holds a line feed. -/
theorem isLine_reportLines (hlevels : ∀ l ∈ s.levels.names, '\n' ∉ l.toList) (t : Timestamp) :
    ∀ l ∈ (s.reportLines t).map String.toList, IsLine l := by
  intro line hline
  rw [reportLines_eq, List.map_append, List.mem_append] at hline
  rcases hline with hline | hline
  · simp only [List.map_cons, List.map_nil, List.mem_cons, List.not_mem_nil, or_false] at hline
    rcases hline with rfl | rfl | rfl | rfl | rfl
    · rw [String.toList_append]
      exact isLine_append_toSeconds (by decide) t
    · rw [rangeLine]
      cases s.range with
      | none => exact ⟨by decide, by decide⟩
      | some r =>
        have hearliest : IsLine ("Time Range: from ".toList ++ r.earliest.toSeconds.toList) :=
          isLine_append_toSeconds (by decide) r.earliest
        have hfront : '\n' ∉ ("Time Range: from " ++ r.earliest.toSeconds ++ " to ").toList := by
          rw [String.toList_append, String.toList_append, List.mem_append]
          exact fun hmem => hmem.elim hearliest.newline_notMem (by decide)
        dsimp only
        rw [String.toList_append]
        exact isLine_append_toSeconds hfront r.latest
    · rw [String.toList_append]
      exact isLine_append_toString (by decide) s.errors
    · rw [String.toList_append]
      exact isLine_append_toString (by decide) s.warnings
    · exact ⟨by decide, by decide⟩
  · simp only [List.map_map, List.mem_map, Function.comp_apply] at hline
    obtain ⟨⟨level, count⟩, hentry, rfl⟩ := hline
    have hlevel : '\n' ∉ level.toList := hlevels level (List.mem_map_of_mem hentry)
    have hfront : '\n' ∉ ("- " ++ level ++ ": ").toList := by
      rw [String.toList_append, String.toList_append, List.mem_append, List.mem_append]
      exact fun hmem => hmem.elim (fun hmem => hmem.elim (by decide) hlevel) (by decide)
    rw [ReportContent.levelLine, String.toList_append]
    exact isLine_append_toString hfront count

theorem lines_reportText (hlevels : ∀ l ∈ s.levels.names, '\n' ∉ l.toList) (t : Timestamp) :
    lines (s.reportText t).toList = (s.reportLines t).map String.toList := by
  rw [toList_reportText, lines_flatMap (isLine_reportLines hlevels t)]

theorem length_reportLines (s : Summary) (t : Timestamp) :
    (s.reportLines t).length = 5 + s.levels.size := by
  rw [reportLines, List.length_append, List.length_map, LevelCounts.size]
  rfl

/-- A report can be read back. -/
theorem ofText?_reportText (hlevels : ∀ l ∈ s.levels.names, '\n' ∉ l.toList) (t : Timestamp) :
    ReportContent.ofText? (s.reportText t) = some (s.content t) := by
  rw [ReportContent.ofText?, lines_reportText hlevels, reportLines_eq, List.map_append]
  simp only [List.map_cons, List.map_nil, List.cons_append, List.nil_append,
    ReportContent.readTitle?_title, ReportContent.readRange?_rangeLine,
    ReportContent.readTotal?_total, ReportContent.mapM_readLevel?, Option.bind_eq_bind,
    Option.bind_some]
  rfl

theorem newline_notMem_names {records : List Record}
    (h : ∀ r ∈ records, '\n' ∉ r.level.toList) :
    ∀ l ∈ (ofRecords records).levels.names, '\n' ∉ l.toList := by
  intro l hl
  obtain ⟨r, hr, rfl⟩ :=
    List.mem_map.1 (((summarizes_ofRecords records).levels.mem_iff l).1 hl)
  exact h r hr

/-- The summary with the seconds that clocks show of its range. -/
def shownSeconds (s : Summary) : Summary := { s with range := s.range.map TimeRange.shownSeconds }

/-- What is read from a report made of some records at this time. -/
structure Tells (c : ReportContent) (records : List Record) (generatedAt : Timestamp) : Prop where
  generatedAt : c.generatedAt = generatedAt.shownSecond
  range : c.range = (ofRecords records).range.map TimeRange.shownSeconds
  levels : c.levels = (ofRecords records).levels.entries
  errors : c.errors = (ofRecords records).errors
  warnings : c.warnings = (ofRecords records).warnings
  sum : (c.levels.map Prod.snd).sum = records.length
  errors_eq_count : c.errors = (c.levels.lookup "Error").getD 0
  warnings_eq_count : c.warnings = (c.levels.lookup "Warning").getD 0

theorem tells_content (records : List Record) (t : Timestamp) :
    Tells ((ofRecords records).content t) records t where
  generatedAt := rfl
  range := rfl
  levels := rfl
  errors := rfl
  warnings := rfl
  sum := by
    have hsum := (summarizes_ofRecords records).levels.sum
    rwa [List.length_map] at hsum
  errors_eq_count := rfl
  warnings_eq_count := rfl

/-- Summaries of which the same is said differ at most in what their seconds do not show. -/
theorem shownSeconds_eq_of_tells {c : ReportContent} {xs ys : List Record} {t u : Timestamp}
    (hx : Tells c xs t) (hy : Tells c ys u) :
    (ofRecords xs).shownSeconds = (ofRecords ys).shownSeconds := by
  have htotal : (ofRecords xs).total = (ofRecords ys).total := by
    rw [(summarizes_ofRecords xs).total, (summarizes_ofRecords ys).total, ← hx.sum, ← hy.sum]
  have hlevels : (ofRecords xs).levels = (ofRecords ys).levels := by
    have hentries := hx.levels.symm.trans hy.levels
    exact congrArg LevelCounts.mk hentries
  rw [shownSeconds, shownSeconds, htotal, hlevels, ← hx.range, ← hy.range]

/-- **A report can be read back.** No line feed stands in a level that was read from a text, in any
shape of lines. If none stands in the levels of some records, the report of them has five lines and
one for every level, and what it says can be read from its text: when it was made and the time range
in the seconds that clocks show, the totals of errors and warnings, and the levels in their order
with their counts. These sum up to the number of records, and two of them are the totals. So two
reports with the same text were made in the same shown second of summaries that differ at most in
what the seconds of their ranges do not show. A shown second is the second without its parts, unless
that is a leap second that clocks hide. -/
theorem reportText_determines :
    (∀ (shape : LineShape) (text : List Char),
      ∀ e ∈ (Batch.ofText shape.read? text).entries, '\n' ∉ e.level.toList) ∧
    (∀ (records : List Record) (t : Timestamp), (∀ r ∈ records, '\n' ∉ r.level.toList) →
      (lines ((ofRecords records).reportText t).toList).length =
        5 + (ofRecords records).levels.size ∧
      lines ((ofRecords records).reportText t).toList =
        ((ofRecords records).reportLines t).map String.toList ∧
      ∃ c, ReportContent.ofText? ((ofRecords records).reportText t) = some c ∧
        Tells c records t) ∧
    (∀ (xs ys : List Record) (t u : Timestamp), (∀ r ∈ xs, '\n' ∉ r.level.toList) →
      (∀ r ∈ ys, '\n' ∉ r.level.toList) →
      (ofRecords xs).reportText t = (ofRecords ys).reportText u →
        t.shownSecond = u.shownSecond ∧
          (ofRecords xs).shownSeconds = (ofRecords ys).shownSeconds) ∧
    ∀ t : Timestamp, t.shownSecond = t.wholeSeconds ↔ t.time.IsShown := by
  have hread : ∀ (records : List Record) (t : Timestamp), (∀ r ∈ records, '\n' ∉ r.level.toList) →
      ReportContent.ofText? ((ofRecords records).reportText t) =
        some ((ofRecords records).content t) :=
    fun records t h => ofText?_reportText (newline_notMem_names h) t
  refine ⟨fun shape text e => Batch.newline_notMem_level, fun records t h => ?_,
    fun xs ys t u hx hy heq => ?_, fun t => Timestamp.shownSecond_eq_wholeSeconds_iff⟩
  · have hlines := lines_reportText (newline_notMem_names h) t
    refine ⟨?_, hlines, _, hread records t h, tells_content records t⟩
    rw [hlines, List.length_map, length_reportLines]
  · have hcontent : (ofRecords xs).content t = (ofRecords ys).content u := by
      have hsame := hread xs t hx
      rw [heq, hread ys u hy] at hsame
      exact (Option.some.inj hsame).symm
    have htells := tells_content xs t
    rw [hcontent] at htells
    exact ⟨htells.generatedAt.symm.trans (tells_content ys u).generatedAt,
      shownSeconds_eq_of_tells htells (tells_content ys u)⟩

/-- Levels that look like parts of a report, and years with a sign: two summaries whose times differ
below the second have the same report. -/
theorem reportText_determines_confusing :
    let ancient (nano : Nat) (h : nano < 1000000000) : Timestamp :=
      { date := { year := -44, month := 3, day := 15, year_mem := by decide,
                  month_mem := by decide, day_mem := by decide }
        time := .leapSecond nano h }
    let distant : Timestamp :=
      { date := { year := 12024, month := 1, day := 1, year_mem := by decide,
                  month_mem := by decide, day_mem := by decide }
        time := .midnight }
    let records (first : Timestamp) : List Record :=
      [{ timestamp := first, level := "- Error: 3", id := ⟨1⟩ },
       { timestamp := distant, level := "Total Errors: 9", id := ⟨2⟩ },
       { timestamp := distant, level := "", id := ⟨3⟩ },
       { timestamp := distant, level := "Error", id := ⟨4⟩ }]
    let xs := records (ancient 1 (by decide))
    let ys := records (ancient 999999999 (by decide))
    (∀ r ∈ xs, '\n' ∉ r.level.toList) ∧ (∀ r ∈ ys, '\n' ∉ r.level.toList) ∧
      (ofRecords xs).range ≠ (ofRecords ys).range ∧
      (ofRecords xs).reportText distant = (ofRecords ys).reportText distant ∧
      (∃ c, ReportContent.ofText? ((ofRecords xs).reportText distant) = some c ∧
        Tells c xs distant) ∧
      (ofRecords xs).shownSeconds = (ofRecords ys).shownSeconds ∧
      distant.shownSecond = distant.wholeSeconds := by
  intro ancient distant records xs ys
  have hxs : ∀ r ∈ xs, '\n' ∉ r.level.toList := by decide +kernel
  have hys : ∀ r ∈ ys, '\n' ∉ r.level.toList := by decide +kernel
  have hsame : (ofRecords xs).reportText distant = (ofRecords ys).reportText distant := by
    decide +kernel
  obtain ⟨-, hread, hdiffer, hshown⟩ := reportText_determines
  exact ⟨hxs, hys, by decide +kernel, hsame, (hread xs distant hxs).2.2,
    (hdiffer xs ys distant distant hxs hys hsame).2, (hshown distant).2 (by decide)⟩

/-- A record in a leap second that clocks hide and one in the second that follows have the same
report, and the seconds of their ranges differ. -/
theorem reportText_hiddenLeap :
    let xs : List Record := [{ timestamp := .hiddenLeap, level := "Info", id := ⟨1⟩ }]
    let ys : List Record :=
      [{ timestamp := Timestamp.hiddenLeap.shown, level := "Info", id := ⟨1⟩ }]
    (∀ r ∈ xs, '\n' ∉ r.level.toList) ∧ (∀ r ∈ ys, '\n' ∉ r.level.toList) ∧
      (ofRecords xs).reportText Timestamp.hiddenLeap.shown =
        (ofRecords ys).reportText Timestamp.hiddenLeap.shown ∧
      (ofRecords xs).range.map (fun r => r.earliest.wholeSeconds) ≠
        (ofRecords ys).range.map fun r => r.earliest.wholeSeconds := by
  intro xs ys
  exact ⟨by decide +kernel, by decide +kernel, by decide +kernel, by decide +kernel⟩

end Summary

end LogDigest
