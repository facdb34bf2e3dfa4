import LogDigest.Proofs.Stamp.Instants
import LogDigest.Proofs.Stamp.Kinds
import LogDigest.Proofs.Stamp.Numbers

/-!
# Offsets are removed

A local time with an offset denotes an instant, and its timestamp is that instant in universal time,
whether it is written in the interchange standard or in the common log form. So texts of local times
give the same timestamp exactly if they denote the same instant, and otherwise timestamps in the
order of the instants (`Timestamp.ofText?_offsets`).

**Either text.** Both forms set the same numbers of the local time and the same offset
(`ZonedStamp.reading`). No other form reads a text that one of them reads, since its kind is then
known.

**Either side of a year.** The local time has a year of four digits. Less than a day away lie years
that have none, and these are far from the ends of the calendar.
-/

namespace LogDigest

open Text

attribute [local instance (high)] instPowNat

-- The order of lists here is that of the core library, whatever is imported beside this module.
attribute [local instance (high)] List.instLT

/-! ## Offsets -/

/-- An offset from universal time of less than a day, in hours and minutes. -/
structure Offset where
  /-- Whether local time is behind universal time. -/
  behind : Bool
  hours : Nat
  minutes : Nat
  hours_lt : hours < 24
  minutes_lt : minutes < 60

namespace Offset

/-- How many minutes local time is ahead of universal time. -/
def ahead (o : Offset) : Int := (if o.behind then -1 else 1) * (o.hours * 60 + o.minutes : Nat)

theorem ahead_mem (o : Offset) : -1440 < o.ahead ∧ o.ahead < 1440 := by
  have hhours := o.hours_lt
  have hminutes := o.minutes_lt
  rw [ahead]
  split <;> omega

def sign (o : Offset) : Char := if o.behind then '-' else '+'

/-- The sign, the hours and the minutes, with marks between the two. -/
def text (o : Offset) (marks : List Char) : List Char :=
  o.sign :: ((padded 2 o.hours).toList ++ (marks ++ (padded 2 o.minutes).toList))

theorem readOffset_text {gap : List Char → Except Misread (List Char)} {marks : List Char}
    (o : Offset) (hgap : gap (marks ++ (padded 2 o.minutes).toList) =
      .ok (padded 2 o.minutes).toList) : readOffset gap (o.text marks) = .ok (o.ahead, []) := by
  have hhours := o.hours_lt
  have hminutes := o.minutes_lt
  have hsign : ∀ s, readSign (o.sign :: s) = .ok (if o.behind then -1 else 1, s) := by
    intro s
    rw [sign]
    cases o.behind <;> rfl
  have hlast : readExactDigits 2 (padded 2 o.minutes).toList = .ok (o.minutes, []) := by
    have hread := readExactDigits_padded (by decide : 0 < 2) (by omega : o.minutes < 10 ^ 2) []
    rwa [List.append_nil] at hread
  rw [readOffset, text, hsign]
  simp only [bind, Except.bind,
    readExactDigits_padded (by decide : 0 < 2) (by omega : o.hours < 10 ^ 2), hgap, hlast]
  rw [if_neg (by omega), if_neg (by omega)]
  rfl

theorem sign_cases (o : Offset) : o.sign = '-' ∨ o.sign = '+' := by
  rw [sign]
  cases o.behind
  · exact Or.inr rfl
  · exact Or.inl rfl

theorem isBlank_sign (o : Offset) : isBlank o.sign = false := by
  rcases o.sign_cases with h | h <;> rw [h] <;> decide

theorem readFrom_zone (o : Offset) (r : Reading) :
    Pattern.readFrom [.zone] r (o.text [':']) = .ok { r with offset := o.ahead } := by
  have hletter : ¬ (o.sign = 'Z' ∨ o.sign = 'z') := by
    rcases o.sign_cases with h | h <;> rw [h] <;> decide
  have hzone : readZone (o.text [':']) = .ok (o.ahead, []) := by
    rw [text, readZone, if_neg hletter]
    exact o.readOffset_text rfl
  have hread : PatternItem.read .zone r (o.text [':']) =
      .ok ({ r with offset := o.ahead }, []) := by
    rw [PatternItem.read, hzone]
    rfl
  exact (Pattern.readFrom_cons hread).trans rfl

/-- Where digits stand there are no colons and blanks to be skipped. -/
theorem dropWhile_padded (width n : Nat) :
    ((padded width n).toList.dropWhile fun c => c == ':' || isBlank c) =
      (padded width n).toList := by
  have hnone : ∀ c ∈ (padded width n).toList, (c == ':' || isBlank c) = false := by
    intro c hc
    have hdigit := isDigit_of_mem_padded c hc
    rw [isBlank_of_isDigit hdigit, Bool.or_false, beq_eq_false_iff_ne]
    rintro rfl
    cases hdigit
  have hends := endsRun_append (padded_ne_nil width n) hnone []
  rw [List.append_nil] at hends
  have hskip := dropWhile_append_of_endsRun (List.forall_mem_nil _) hends
  rwa [List.nil_append] at hskip

/-- An offset without a colon, behind a space. -/
theorem readFrom_offset (o : Offset) (r : Reading) :
    Pattern.readFrom [.blanks, .offset] r (' ' :: o.text []) =
      .ok { r with offset := o.ahead } := by
  have htrim : trimLeft (o.text []) = o.text [] :=
    trimLeft_of_endsRun (endsRun_cons o.isBlank_sign _)
  have hblanks : PatternItem.read .blanks r (' ' :: o.text []) = .ok (r, o.text []) := by
    rw [PatternItem.read, trimLeft, List.dropWhile_cons_of_pos (by decide), ← trimLeft, htrim]
  have hoffset :
      readOffset (fun s => .ok (s.dropWhile fun c => c == ':' || isBlank c)) (o.text []) =
        .ok (o.ahead, []) := by
    refine o.readOffset_text ?_
    rw [List.nil_append, dropWhile_padded]
  have hread : PatternItem.read .offset r (o.text []) = .ok ({ r with offset := o.ahead }, []) := by
    rw [PatternItem.read, htrim, hoffset]
    rfl
  rw [Pattern.readFrom_cons hblanks]
  exact (Pattern.readFrom_cons hread).trans rfl

end Offset

/-! ## Local times -/

/-- A local time and its offset, with a year of four digits. -/
structure ZonedStamp where
  /-- What a clock shows. -/
  clock : Timestamp
  offset : Offset
  year_mem : 0 ≤ clock.date.year ∧ clock.date.year ≤ 9999
  isShown : clock.time.IsShown

/-- The first three letters of the names of the months, the first of them a capital. -/
def capitalMonthNames : List String :=
  ["Jan", "Feb", "Mar", "Apr", "May", "Jun", "Jul", "Aug", "Sep", "Oct", "Nov", "Dec"]

/-- The short name of a month. -/
def monthText (month : Nat) : List Char := (capitalMonthNames.getD (month - 1) "").toList

namespace ZonedStamp

/-- The instant that a local time denotes: what its clock shows, less the offset. -/
def instant (z : ZonedStamp) : List Int :=
  [z.clock.secondNumber - z.offset.ahead * 60, z.clock.time.nanosBeyond]

/-- The interchange standard, with a fraction. -/
def standardText (z : ZonedStamp) (f : List Char) : List Char :=
  z.clock.date.text.toList ++ 'T' :: (z.clock.time.text.toList ++ (f ++ z.offset.text [':']))

def commonLogText (z : ZonedStamp) : List Char :=
  (padded 2 z.clock.date.day).toList ++ '/' :: (monthText z.clock.date.month ++ '/' ::
    ((padded 4 z.clock.date.year.toNat).toList ++ ':' ::
      (z.clock.time.text.toList ++ ' ' :: z.offset.text [])))

/-- The texts of a local time: the interchange standard with up to nine digits behind the point, and
for a whole second also the common log form. -/
inductive WrittenAs (z : ZonedStamp) : List Char → Prop
  | standard {f : List Char} (hf : IsFraction z.clock.time.nano f) : z.WrittenAs (z.standardText f)
  | commonLog (h : z.clock.time.nano = 0) : z.WrittenAs z.commonLogText

/-- The numbers that either text sets. -/
def reading (z : ZonedStamp) : Reading where
  year := z.clock.date.year
  month := z.clock.date.month
  day := z.clock.date.day
  hour := z.clock.time.hour
  minute := z.clock.time.minute
  second := z.clock.time.second
  nano := z.clock.time.nano
  offset := z.offset.ahead

/-! ## Reading the texts -/

end ZonedStamp

/-- A fraction ends where no digit follows. -/
theorem IsFraction.read_append {nano : Nat} {f : List Char} (h : IsFraction nano f) {r : Reading}
    (hr : r.nano = 0) {c : Char} (hpoint : c ≠ '.') (hdigit : c.isDigit = false) (s : List Char) :
    PatternItem.read .fraction r (f ++ c :: s) = .ok ({ r with nano }, c :: s) := by
  cases h with
  | whole =>
    rw [List.nil_append, PatternItem.read.eq_def]
    dsimp only
    split
    · rename_i heq
      cases heq
      exact absurd rfl hpoint
    · rw [← hr]
  | @digits width n hwidth hle hn =>
    have hlength := length_padded hwidth hn
    have hnext := noDigitNext_cons hdigit s
    have hdigits : readDigits 9 ((padded width n).toList ++ c :: s) = .ok (n, c :: s) := by
      have hread := readDigits_append 9 (padded_ne_nil width n) isDigit_of_mem_padded
        (by omega) (noDigitNext_take hnext (9 - (padded width n).toList.length))
      rwa [ofDigitChars_padded] at hread
    have hcount : ((padded width n).toList ++ c :: s).length - (c :: s).length = width := by
      rw [List.length_append, hlength, Nat.add_sub_cancel]
    have hrest : (c :: s).dropWhile Char.isDigit = c :: s :=
      List.dropWhile_cons_of_neg (by simp [hdigit])
    rw [List.cons_append, PatternItem.read, readFraction, hdigits]
    simp only [Except.map, hcount, hrest]

theorem Pattern.readFrom_monthText {p : Pattern} {r : LogDigest.Reading} {month : Nat}
    (h : 1 ≤ month ∧ month ≤ 12) (s : List Char) :
    readFrom (.monthName :: p) r (monthText month ++ s) = readFrom p { r with month } s := by
  have hnames : ∀ i < 12, (monthText (i + 1)).length = 3 ∧
      monthNames.idxOf? ((monthText (i + 1)).map Char.toLower) = some i := by decide
  obtain ⟨i, rfl⟩ : ∃ i, month = i + 1 := ⟨month - 1, by omega⟩
  obtain ⟨hlength, hindex⟩ := hnames i (by omega)
  have hread : PatternItem.read .monthName r (monthText (i + 1) ++ s) =
      .ok ({ r with month := i + 1 }, s) := by
    rw [PatternItem.read, List.take_left' hlength, if_neg (by omega), hindex,
      List.drop_left' hlength]
  exact Pattern.readFrom_cons hread

namespace ZonedStamp

theorem readFrom_year (z : ZonedStamp) {p : Pattern} {r : Reading} (s : List Char) :
    Pattern.readFrom (.number .year :: p) r ((padded 4 z.clock.date.year.toNat).toList ++ s) =
      Pattern.readFrom p { r with year := z.clock.date.year } s := by
  have hyear := z.year_mem
  rw [Pattern.readFrom_year (by omega), Reading.put, Int.toNat_of_nonneg hyear.1]

theorem readFrom_commonLogText (z : ZonedStamp) (h : z.clock.time.nano = 0) :
    Pattern.commonLog.readFrom {} z.commonLogText = .ok z.reading := by
  have hday := z.clock.date.day_mem
  have hdays := daysInMonth_le z.clock.date.year z.clock.date.month
  rw [commonLogText, Pattern.commonLog, List.append_assoc, List.cons_append,
    Pattern.readFrom_number (by decide) (by omega) (Reading.set_day _ ⟨hday.1, by omega⟩)]
  simp only [List.cons_append, List.nil_append]
  rw [Pattern.readFrom_mark, Pattern.readFrom_monthText z.clock.date.month_mem,
    Pattern.readFrom_mark, z.readFrom_year, Pattern.readFrom_mark, z.clock.time.readFrom_text,
    z.offset.readFrom_offset, reading, h]

theorem readFrom_standardText (z : ZonedStamp) {f : List Char}
    (hf : IsFraction z.clock.time.nano f) :
    Pattern.standard.readFrom {} (z.standardText f) = .ok z.reading := by
  have hsign : z.offset.sign ≠ '.' ∧ z.offset.sign.isDigit = false := by
    rcases z.offset.sign_cases with h | h <;> rw [h] <;> decide
  rw [standardText, z.clock.readFrom_standard z.year_mem (by decide), Offset.text,
    Pattern.readFrom_cons (hf.read_append rfl hsign.1 hsign.2 _), ← Offset.text,
    z.offset.readFrom_zone, reading]

/-- The numbers of a local time name the timestamp that is less its offset. -/
theorem timestamp_reading (z : ZonedStamp) :
    ∃ t, z.reading.timestamp = .ok t ∧ t.instant = z.instant := by
  have hyear := z.year_mem
  obtain ⟨t, ht, hsecond, hnanos⟩ :=
    z.clock.exists_earlierBy? z.offset.ahead_mem (by omega)
  have hclock : z.clock.time.shown = z.clock.time := Time.shown_of_isShown z.isShown
  refine ⟨t, ?_, ?_⟩
  · simp only [Reading.timestamp, reading, Bool.false_eq_true, if_false, Nat.add_zero,
      Date.ofYmd?_numbers, Time.ofHms?_numbers, hclock, ht]
  · rw [Timestamp.instant, instant, hsecond, hnanos]

/-- No blanks stand around a text of a local time. -/
theorem WrittenAs.trim_eq {z : ZonedStamp} {s : List Char} (h : z.WrittenAs s) : trim s = s := by
  have hoffset : ∀ marks, NoBlank marks → NoBlank (z.offset.text marks) := by
    intro marks hmarks
    simp only [Offset.text, noBlank_cons, noBlank_append, z.offset.isBlank_sign, hmarks,
      (isWord_padded _ _).2, and_self]
  cases h with
  | standard hf =>
    have hmark : isBlank 'T' = false := by decide
    refine trim_isWord (z.clock.date.isWord_text.append_noBlank ?_)
    simp only [noBlank_cons, noBlank_append, hmark, z.clock.time.isWord_text.2, hf.noBlank,
      hoffset [':'] (by decide), and_self]
  | commonLog hnano =>
    have hword : IsWord (z.offset.text []) := ⟨List.cons_ne_nil _ _, hoffset [] (by decide)⟩
    obtain ⟨between, hsplit⟩ : ∃ between,
        z.commonLogText = (padded 2 z.clock.date.day).toList ++ (between ++ z.offset.text []) := by
      refine ⟨'/' :: (monthText z.clock.date.month ++ '/' ::
        ((padded 4 z.clock.date.year.toNat).toList ++ ':' ::
          (z.clock.time.text.toList ++ [' ']))), ?_⟩
      simp only [commonLogText, List.append_assoc, List.cons_append, List.nil_append]
    rw [hsplit]
    exact trim_isWord_append (isWord_padded 2 _) between hword

/-- **A local time is read as the instant that it denotes.** -/
theorem WrittenAs.exists_ofText? {z : ZonedStamp} {s : List Char} (h : z.WrittenAs s) :
    ∃ t, Timestamp.ofText? s = some t ∧ t.instant = z.instant := by
  obtain ⟨t, ht, hinstant⟩ := z.timestamp_reading
  refine ⟨t, ?_, hinstant⟩
  have hread : ∀ p : Pattern, p.readFrom {} s = .ok z.reading → (p.read s).toOption = some t := by
    intro p hp
    rw [Pattern.toOption_read, hp]
    exact congrArg Except.toOption ht
  rw [Timestamp.ofText?_eq_forms, h.trim_eq]
  -- The form that reads the text is the only one of its kind.
  cases h with
  | standard hf =>
    have hstandard := z.readFrom_standardText hf
    rw [StampKind.ofText_standard (Pattern.uses_of_readFrom hstandard), StampKind.forms,
      List.findSome?_cons]
    have hform : StampForm.read? { pattern := .standard } (z.standardText _) = some t :=
      hread .standard hstandard
    rw [hform]
  | commonLog hnano =>
    have hcommonLog := z.readFrom_commonLogText hnano
    rw [StampKind.ofText_commonLog (Pattern.uses_of_readFrom hcommonLog), StampKind.forms,
      List.findSome?_cons]
    have hform : StampForm.read? { pattern := .commonLog } z.commonLogText = some t :=
      hread .commonLog hcommonLog
    rw [hform]

end ZonedStamp

/-! ## The result -/

namespace Timestamp

/-- **Offsets are removed.** Local times in either form are read as the instants that they denote.
So they give the same timestamp exactly if they denote the same instant, and otherwise the earlier
instant gives the earlier timestamp. -/
theorem ofText?_offsets {z z' : ZonedStamp} {s s' : List Char} (h : z.WrittenAs s)
    (h' : z'.WrittenAs s') :
    ∃ t t', ofText? s = some t ∧ ofText? s' = some t' ∧
      t.instant = z.instant ∧ t'.instant = z'.instant ∧
        (t = t' ↔ z.instant = z'.instant) ∧ (t < t' ↔ z.instant < z'.instant) := by
  obtain ⟨t, ht, hinstant⟩ := h.exists_ofText?
  obtain ⟨t', ht', hinstant'⟩ := h'.exists_ofText?
  refine ⟨t, t', ht, ht', hinstant, hinstant', ?_, ?_⟩
  · rw [← hinstant, ← hinstant', instant_inj]
  · rw [← hinstant, ← hinstant', lt_iff_instant]

/-- Half a second into the first year with four digits, where clocks are a minute ahead, and a leap
second at the end of the last one, where they are a minute behind. Neither instant lies in a year
with four digits. -/
theorem ofText?_offsets_outerYears :
    ∃ z z' : ZonedStamp, z.WrittenAs "0000-01-01T00:00:00.5+00:01".toList ∧
      z'.WrittenAs "31/Dec/9999:23:59:60 -0001".toList ∧ z.instant < z'.instant ∧
        ∃ t t', ofText? "0000-01-01T00:00:00.5+00:01".toList = some t ∧
          ofText? "31/Dec/9999:23:59:60 -0001".toList = some t' ∧
            t.exact = "-0001-12-31 23:59:00.500" ∧ t'.exact = "+10000-01-01 00:00:60" ∧ t < t' := by
  obtain ⟨z, htext, hnano, hinstant⟩ : ∃ z : ZonedStamp,
      z.standardText ['.', '5'] = "0000-01-01T00:00:00.5+00:01".toList ∧
        z.clock.time.nano = 500000000 ∧ z.instant = [-31536060, 500000000] :=
    ⟨{ clock :=
         { date :=
             { year := 0, month := 1, day := 1, year_mem := by decide, month_mem := by decide,
               day_mem := by decide }
           time := { Time.midnight with nanosBeyond := 500000000, nanosBeyond_lt := by decide } }
       offset :=
         { behind := false, hours := 0, minutes := 1, hours_lt := by decide,
           minutes_lt := by decide }
       year_mem := by decide
       isShown := by decide },
      by decide, by decide, by decide⟩
  obtain ⟨z', htext', hnano', hinstant'⟩ : ∃ z : ZonedStamp,
      z.commonLogText = "31/Dec/9999:23:59:60 -0001".toList ∧ z.clock.time.nano = 0 ∧
        z.instant = [315537984059, 1000000000] :=
    ⟨{ clock :=
         { date :=
             { year := 9999, month := 12, day := 31, year_mem := by decide, month_mem := by decide,
               day_mem := by decide }
           time := .leapSecond 0 (by decide) }
       offset :=
         { behind := true, hours := 0, minutes := 1, hours_lt := by decide,
           minutes_lt := by decide }
       year_mem := by decide
       isShown := by decide },
      by decide, by decide, by decide⟩
  have hf : IsFraction z.clock.time.nano ['.', '5'] := by
    rw [hnano]
    exact .digits (by decide : 0 < 1) (by decide) (by decide : 5 < 10 ^ 1)
  have hwritten : z.WrittenAs "0000-01-01T00:00:00.5+00:01".toList := htext ▸ .standard hf
  have hwritten' : z'.WrittenAs "31/Dec/9999:23:59:60 -0001".toList := htext' ▸ .commonLog hnano'
  have hlt : z.instant < z'.instant := by
    rw [hinstant, hinstant']
    decide
  obtain ⟨t, t', ht, ht', -, -, -, horder⟩ := ofText?_offsets hwritten hwritten'
  have hexact : (ofText? "0000-01-01T00:00:00.5+00:01".toList).map exact =
      some "-0001-12-31 23:59:00.500" := by decide
  have hexact' : (ofText? "31/Dec/9999:23:59:60 -0001".toList).map exact =
      some "+10000-01-01 00:00:60" := by decide
  rw [ht] at hexact
  rw [ht'] at hexact'
  exact ⟨z, z', hwritten, hwritten', hlt, t, t', ht, ht', Option.some.inj hexact,
    Option.some.inj hexact', horder.2 hlt⟩

end Timestamp

end LogDigest
