import LogDigest.Calendar.Permissive
import LogDigest.Proofs.Calendar

/-!
# Written timestamps are read by the permissive reader

The forms with a space between day and time are read back by `Timestamp.ofText?`, whatever the
year, the second and the fraction, as what they show (`Timestamp.ofText?_exact`,
`Timestamp.ofText?_toMillis`). And nothing else is ever read: the reader names every timestamp by
the numbers on a clock (`Timestamp.isShown_of_ofText?`).

**What reading leaves.** Every item leaves an end of its text (`Leaves`, with one rule for each way
to build a reader). So a pattern that asks for a mark refuses every text without that mark, and the
common log form cannot capture a text without a slash.

**The standard.** The interchange standard reads the same numbers in the same places, but it needs
an offset behind them, and no sign before a year.

**Year first.** Nothing in a written timestamp is changed when its separators are made uniform.
-/

namespace LogDigest

open Text

attribute [local instance (high)] instPowNat

/-! ## Digits of a fixed width -/

theorem readExactDigits_padded {width n : Nat} (hwidth : 0 < width) (h : n < 10 ^ width)
    (s : List Char) : readExactDigits width ((padded width n).toList ++ s) = .ok (n, s) := by
  have hlength := length_padded hwidth h
  have htake : ((padded width n).toList ++ s).take width = (padded width n).toList :=
    List.take_left' hlength
  have hdigits : (padded width n).toList.all Char.isDigit = true :=
    List.all_eq_true.2 isDigit_of_mem_padded
  rw [readExactDigits, htake, if_neg (by omega), if_pos hdigits, ofDigitChars_padded,
    List.drop_left' hlength]

theorem Pattern.readFrom_digits {p : Pattern} {r r' : LogDigest.Reading} {unit : TimeUnit}
    {width n : Nat} (hwidth : 0 < width) (hn : n < 10 ^ width) (hset : r.set unit n = .ok r')
    (s : List Char) :
    readFrom (.digits unit width :: p) r ((padded width n).toList ++ s) = readFrom p r' s := by
  refine readFrom_cons ?_
  rw [PatternItem.read, readExactDigits_padded hwidth hn]
  simp only [bind, Except.bind, hset]
  rfl

/-- Where a digit has to stand nothing else is read. -/
theorem Pattern.readFrom_digits_cons {p : Pattern} {r : LogDigest.Reading} {unit : TimeUnit}
    {width : Nat} {c : Char} (hc : c.isDigit = false) (s : List Char) :
    ∃ e, readFrom (.digits unit (width + 1) :: p) r (c :: s) = .error e := by
  have hdigits : ((c :: s).take (width + 1)).all Char.isDigit = false := by
    rw [List.take_succ_cons, List.all_cons, hc, Bool.false_and]
  rw [readFrom, PatternItem.read, readExactDigits, hdigits]
  dsimp only
  split
  · exact ⟨_, rfl⟩
  · exact ⟨_, rfl⟩

/-! ## What reading leaves -/

/-- If there is a result, what remains is an end of the text. -/
def Leaves {α : Type} (s : List Char) (x : Except Misread (α × List Char)) : Prop :=
  ∀ a rest, x = .ok (a, rest) → rest <:+ s

namespace Leaves

variable {α β : Type} {s t : List Char} {x : Except Misread (α × List Char)}

theorem ok {a : α} (h : t <:+ s) : Leaves s (.ok (a, t)) := by
  intro _ _ heq
  cases heq
  exact h

theorem error (e : Misread) : Leaves (α := α) s (.error e) := nofun

/-- A result of an end is one of the whole text. -/
theorem mono (hx : Leaves t x) (h : t <:+ s) : Leaves s x :=
  fun a rest heq => (hx a rest heq).trans h

theorem map {f : α × List Char → β × List Char} (hx : Leaves s x)
    (hf : ∀ a rest, (f (a, rest)).2 <:+ rest) : Leaves s (x.map f) := by
  intro b rest heq
  cases hr : x with
  | error e =>
    rw [hr] at heq
    cases heq
  | ok r =>
    rw [hr] at heq
    have hrest : (f r).2 = rest := congrArg Prod.snd (Except.ok.inj heq)
    rw [← hrest]
    exact (hf r.1 r.2).trans (hx r.1 r.2 hr)

theorem bind {f : α × List Char → Except Misread (β × List Char)} (hx : Leaves s x)
    (hf : ∀ a rest, Leaves rest (f (a, rest))) : Leaves s (x >>= f) := by
  intro b rest heq
  cases hr : x with
  | error e =>
    rw [hr] at heq
    cases heq
  | ok r =>
    rw [hr] at heq
    exact (hf r.1 r.2 b rest heq).trans (hx r.1 r.2 hr)

theorem ite {c : Prop} [Decidable c] {y : Except Misread (α × List Char)} (hx : Leaves s x)
    (hy : Leaves s y) : Leaves s (if c then x else y) := by
  split
  · exact hx
  · exact hy

end Leaves

theorem leaves_readDigits (width : Nat) (s : List Char) : Leaves s (readDigits width s) :=
  .ite (.error _) (.ok (List.drop_suffix _ _))

theorem leaves_readExactDigits (width : Nat) (s : List Char) :
    Leaves s (readExactDigits width s) :=
  .ite (.error _) (.ite (.ok (List.drop_suffix _ _)) (.error _))

theorem leaves_readYear (s : List Char) : Leaves s (readYear s) := by
  rw [readYear.eq_def]
  split
  · exact ((leaves_readDigits _ _).mono (List.suffix_cons _ _)).map fun _ _ => List.suffix_rfl
  · exact ((leaves_readDigits _ _).mono (List.suffix_cons _ _)).map fun _ _ => List.suffix_rfl
  · exact (leaves_readDigits _ _).map fun _ _ => List.suffix_rfl

theorem leaves_readNumber (unit : TimeUnit) (s : List Char) : Leaves s (readNumber unit s) := by
  cases unit with
  | year => exact leaves_readYear s
  | month | day | hour | halfDayHour | minute | second =>
    exact (leaves_readDigits 2 s).map fun _ _ => List.suffix_rfl

theorem leaves_readFraction (s : List Char) : Leaves s (readFraction s) :=
  (leaves_readDigits 9 s).map fun _ _ => List.dropWhile_suffix _

theorem leaves_readSign (s : List Char) : Leaves s (readSign s) := by
  cases s with
  | nil => exact .error _
  | cons c s =>
    exact .ite (.ok (List.suffix_cons _ _)) (.ite (.ok (List.suffix_cons _ _)) (.error _))

theorem exists_of_readMark {chars s rest : List Char} (h : readMark chars s = .ok rest) :
    ∃ c ∈ chars, s = c :: rest := by
  cases s with
  | nil => cases h
  | cons c s =>
    rw [readMark] at h
    split at h
    · rename_i hc
      cases h
      exact ⟨c, by simpa using hc, rfl⟩
    · cases h

theorem leaves_readOffset {gap : List Char → Except Misread (List Char)}
    (hgap : ∀ s rest, gap s = .ok rest → rest <:+ s) (s : List Char) :
    Leaves s (readOffset gap s) := by
  refine (leaves_readSign s).bind fun sign s => ?_
  refine (leaves_readExactDigits 2 s).bind fun hours s => ?_
  intro minutes rest h
  dsimp only at h
  cases hbetween : gap s with
  | error e =>
    rw [hbetween] at h
    cases h
  | ok between =>
    rw [hbetween] at h
    refine List.IsSuffix.trans ?_ (hgap s between hbetween)
    exact ((leaves_readExactDigits 2 between).bind fun minutes rest =>
      .ite (.error _) (.ite (.error _) (.ok List.suffix_rfl))) _ _ h

theorem leaves_readZone (s : List Char) : Leaves s (readZone s) := by
  cases s with
  | nil => exact .error _
  | cons c s =>
    refine .ite (.ok (List.suffix_cons _ _)) (leaves_readOffset (fun s rest h => ?_) _)
    obtain ⟨c, -, rfl⟩ := exists_of_readMark h
    exact List.suffix_cons _ _

theorem PatternItem.exists_of_read_mark {chars s rest : List Char} {r r' : Reading}
    (h : PatternItem.read (.mark chars) r s = .ok (r', rest)) : ∃ c ∈ chars, s = c :: rest := by
  rw [PatternItem.read] at h
  cases hmark : readMark chars s with
  | error e =>
    rw [hmark] at h
    cases h
  | ok s' =>
    rw [hmark] at h
    cases h
    exact exists_of_readMark hmark

/-- Every item leaves an end of its text. -/
theorem PatternItem.leaves_read (item : PatternItem) (r : Reading) (s : List Char) :
    Leaves s (item.read r s) := by
  have hset : ∀ (unit : TimeUnit) (n : Int) (rest : List Char),
      Leaves rest (do return (← r.set unit n, rest)) := by
    intro unit n rest
    cases r.set unit n with
    | error e => exact .error _
    | ok r => exact .ok List.suffix_rfl
  cases item with
  | number unit =>
    exact ((leaves_readNumber unit _).bind fun n rest => hset unit n rest).mono
      (List.dropWhile_suffix _)
  | digits unit width => exact (leaves_readExactDigits width s).bind fun n rest => hset unit n rest
  | blanks => exact .ok (List.dropWhile_suffix _)
  | mark chars =>
    intro r' rest h
    obtain ⟨c, -, rfl⟩ := exists_of_read_mark h
    exact List.suffix_cons _ _
  | fraction =>
    rw [read.eq_def]
    dsimp only
    split
    · exact ((leaves_readFraction _).mono (List.suffix_cons _ _)).map fun _ _ => List.suffix_rfl
    · exact .ok List.suffix_rfl
  | monthName =>
    refine .ite (.error _) ?_
    split
    · exact .ok (List.drop_suffix _ _)
    · exact .error _
  | halfDay =>
    exact .ite (.error _) (.ite (.ok (List.drop_suffix _ _))
      (.ite (.ok (List.drop_suffix _ _)) (.error _)))
  | offset =>
    refine ((leaves_readOffset (fun s rest h => ?_) _).mono (List.dropWhile_suffix _)).map
      fun _ _ => List.suffix_rfl
    cases h
    exact List.dropWhile_suffix _
  | zone => exact (leaves_readZone s).map fun _ _ => List.suffix_rfl

/-- A pattern with a mark reads only texts in which such a mark stands. -/
theorem Pattern.exists_mem_of_readFrom {p : Pattern} {chars : List Char} (h : .mark chars ∈ p)
    {r r' : LogDigest.Reading} {s : List Char} (hread : p.readFrom r s = .ok r') :
    ∃ c ∈ chars, c ∈ s := by
  induction p generalizing r s with
  | nil => cases h
  | cons item p ih =>
    rw [readFrom] at hread
    cases hitem : item.read r s with
    | error e =>
      rw [hitem] at hread
      cases hread
    | ok next =>
      obtain ⟨r₁, rest⟩ := next
      rw [hitem] at hread
      rcases List.mem_cons.1 h with rfl | h
      · obtain ⟨c, hc, rfl⟩ := PatternItem.exists_of_read_mark hitem
        exact ⟨c, hc, List.mem_cons_self⟩
      · obtain ⟨c, hc, hmem⟩ := ih h hread
        exact ⟨c, hc, (item.leaves_read r s r₁ rest hitem).mem hmem⟩

/-! ## Uniform separators -/

theorem replaceFirst_of_not_mem {old new : Char} {s : List Char} (h : old ∉ s) (n : Nat) :
    replaceFirst n old new s = s := by
  induction s with
  | nil => rfl
  | cons c s ih =>
    obtain ⟨hc, hs⟩ := not_or.1 (List.mem_cons.not.1 h)
    cases n with
    | zero => rfl
    | succ n => rw [replaceFirst, if_neg (Ne.symm hc), ih hs]

/-- A text whose separators are uniform stays as it is. -/
theorem yearFirst_of_not_mem {s : List Char} (hslash : '/' ∉ s) (hmark : 'T' ∉ s)
    (hcomma : ',' ∉ s) : yearFirst s = s := by
  have hmap : s.map (fun c => if c = ',' then '.' else c) = s.map id :=
    List.map_congr_left fun c hc => if_neg (ne_of_mem_of_not_mem hc hcomma)
  rw [yearFirst, replaceFirst_of_not_mem hslash, replaceFirst_of_not_mem hmark, hmap, List.map_id,
    ite_self]

/-! ## Days and times -/

theorem Date.toList_text (d : Date) :
    d.text.toList = d.yearText.toList ++ '-' ::
      ((padded 2 d.month).toList ++ '-' :: (padded 2 d.day).toList) := by
  have hmark : "-".toList = ['-'] := rfl
  simp only [text, String.toList_append, hmark, List.append_assoc, List.cons_append,
    List.nil_append]

theorem Time.toList_text (t : Time) :
    t.text.toList = (padded 2 t.hour).toList ++ ':' ::
      ((padded 2 t.minute).toList ++ ':' :: (padded 2 t.second).toList) := by
  have hmark : ":".toList = [':'] := rfl
  simp only [text, String.toList_append, hmark, List.append_assoc, List.cons_append,
    List.nil_append]

theorem Date.isWord_text (d : Date) : IsWord d.text.toList := by
  have hyear : IsWord d.yearText.toList := by
    rw [yearText]
    split
    · exact isWord_padded _ _
    · rw [String.toList_append]
      refine IsWord.append_noBlank ?_ (isWord_padded _ _).2
      split <;> decide
  have hmark : isBlank '-' = false := by decide
  rw [d.toList_text]
  refine hyear.append_noBlank ?_
  simp only [noBlank_cons, noBlank_append, hmark, (isWord_padded _ _).2, and_self]

theorem Time.isWord_text (t : Time) : IsWord t.text.toList := by
  have hmark : isBlank ':' = false := by decide
  rw [t.toList_text]
  refine (isWord_padded 2 t.hour).append_noBlank ?_
  simp only [noBlank_cons, noBlank_append, hmark, (isWord_padded _ _).2, and_self]

theorem IsFraction.noBlank {nano : Nat} {f : List Char} (h : IsFraction nano f) : NoBlank f := by
  cases h with
  | whole => exact noBlank_nil
  | digits hwidth hle hn => exact noBlank_cons.2 ⟨by decide, (isWord_padded _ _).2⟩

/-- A day is read from its numbers with hyphens between them. -/
theorem Date.readFrom_text {p : Pattern} {r : Reading} (d : Date) (s : List Char) :
    Pattern.readFrom (Pattern.dateBy '-' .year .month .day ++ p) r (d.text.toList ++ s) =
      Pattern.readFrom p { r with year := d.year, month := d.month, day := d.day } s := by
  have hmonth := d.month_mem
  have hday := d.day_mem
  have hdays := daysInMonth_le d.year d.month
  rw [d.toList_text]
  simp only [Pattern.dateBy, List.cons_append, List.nil_append, List.append_assoc]
  rw [d.readFrom_yearText,
    Pattern.readFrom_mark,
    Pattern.readFrom_number (by decide) (by omega) (Reading.set_month _ hmonth),
    Pattern.readFrom_mark,
    Pattern.readFrom_number (by decide) (by omega) (Reading.set_day _ ⟨hday.1, by omega⟩)]

/-- A time of day is read from its numbers with colons between them. -/
theorem Time.readFrom_text {p : Pattern} {r : Reading} (t : Time) (s : List Char) :
    Pattern.readFrom (Pattern.clock ++ p) r (t.text.toList ++ s) =
      Pattern.readFrom p { r with hour := t.hour, minute := t.minute, second := t.second } s := by
  have hhour := t.hour_lt
  have hminute := t.minute_lt
  have hsecond := t.second_le
  rw [t.toList_text]
  simp only [Pattern.clock, List.cons_append, List.nil_append, List.append_assoc]
  rw [Pattern.readFrom_number (by decide) (by omega) (Reading.set_hour _ hhour),
    Pattern.readFrom_mark,
    Pattern.readFrom_number (by decide) (by omega) (Reading.set_minute _ hminute),
    Pattern.readFrom_mark,
    Pattern.readFrom_number (by decide) (by omega) (Reading.set_second _ hsecond)]

/-- The space before a time of day is skipped. -/
theorem Time.readFrom_blanks {p : Pattern} {r : Reading} (t : Time) (s : List Char) :
    Pattern.readFrom (.blanks :: p) r (' ' :: (t.text.toList ++ s)) =
      Pattern.readFrom p r (t.text.toList ++ s) := by
  refine Pattern.readFrom_cons ?_
  rw [t.toList_text, List.append_assoc, PatternItem.read, trimLeft,
    List.dropWhile_cons_of_pos (by decide), ← trimLeft,
    trimLeft_append_of_digits (padded_ne_nil _ _) isDigit_of_mem_padded]

/-! ## The written text -/

namespace Timestamp

/-- The timestamp with the milliseconds of its second and nothing below them. -/
def wholeMillis (t : Timestamp) : Timestamp where
  date := t.date
  time := t.time.cut 1000000

theorem text_time_wholeMillis (t : Timestamp) : t.wholeMillis.time.text = t.time.text :=
  Time.text_cut (by decide) t.time

theorem nano_wholeMillis (t : Timestamp) :
    t.wholeMillis.time.nano = t.time.nano / 1000000 * 1000000 :=
  (Time.cut_numbers (by decide) t.time).2

theorem shown_wholeMillis_eq_iff {t : Timestamp} :
    t.wholeMillis.shown = t.wholeMillis ↔ t.time.IsShown := by
  rw [shown_eq_self_iff, ← Time.shown_eq_self_iff]
  exact Time.shown_cut_eq_iff (by decide)

/-- Day and time with a space between them, and a fraction. -/
def spaced (t : Timestamp) (f : List Char) : List Char :=
  t.date.text.toList ++ ' ' :: (t.time.text.toList ++ f)

/-- The numbers of a timestamp and the marks between them. -/
theorem spaced_eq (t : Timestamp) (f : List Char) :
    t.spaced f = t.date.yearText.toList ++ '-' ::
      ((padded 2 t.date.month).toList ++ '-' :: ((padded 2 t.date.day).toList ++ ' ' ::
        ((padded 2 t.time.hour).toList ++ ':' :: ((padded 2 t.time.minute).toList ++ ':' ::
          ((padded 2 t.time.second).toList ++ f))))) := by
  simp only [spaced, Date.toList_text, Time.toList_text, List.append_assoc, List.cons_append]

variable {t : Timestamp} {nano : Nat} {f : List Char}

/-- A character of the text is a digit or one of five marks. -/
theorem isDigit_or_mem_of_mem_spaced (hf : IsFraction nano f) {c : Char}
    (hc : c ∈ t.spaced f) : c.isDigit = true ∨ c ∈ ['-', '+', ' ', ':', '.'] := by
  have hpadded : ∀ {width n : Nat}, c ∈ (padded width n).toList → c.isDigit = true :=
    fun h => isDigit_of_mem_padded c h
  have hyear : c ∈ t.date.yearText.toList → c.isDigit = true ∨ c ∈ ['-', '+'] := by
    intro h
    rw [Date.yearText] at h
    split at h
    · exact Or.inl (hpadded h)
    · rw [String.toList_append, List.mem_append] at h
      rcases h with h | h
      · right
        split at h
        · simpa using Or.inl h
        · simpa using Or.inr h
      · exact Or.inl (hpadded h)
  have hfraction : c ∈ f → c.isDigit = true ∨ c = '.' := by
    intro h
    cases hf with
    | whole => cases h
    | digits hwidth hle hn =>
      rcases List.mem_cons.1 h with rfl | h
      · exact Or.inr rfl
      · exact Or.inl (hpadded h)
  rw [spaced_eq] at hc
  simp only [List.mem_append, List.mem_cons] at hc ⊢
  grind

theorem isWord_clock (hf : IsFraction nano f) :
    IsWord (t.time.text.toList ++ f) :=
  t.time.isWord_text.append_noBlank hf.noBlank

theorem trim_spaced (hf : IsFraction nano f) :
    trim (t.spaced f) = t.spaced f := by
  rw [spaced, ← List.singleton_append]
  exact trim_isWord_append t.date.isWord_text _ (isWord_clock hf)

/-! ## Forms that do not read it -/

/-- The interchange standard reads day and time, if the year has four digits. -/
theorem readFrom_standard (t : Timestamp) (hyear : 0 ≤ t.date.year ∧ t.date.year ≤ 9999) {c : Char}
    (hc : ['T', 't', ' '].contains c = true) (s : List Char) :
    Pattern.standard.readFrom {} (t.date.text.toList ++ c :: (t.time.text.toList ++ s)) =
      Pattern.readFrom [.fraction, .zone]
        { year := t.date.year, month := t.date.month, day := t.date.day, hour := t.time.hour,
          minute := t.time.minute, second := t.time.second } s := by
  have hmonth := t.date.month_mem
  have hday := t.date.day_mem
  have hdays := daysInMonth_le t.date.year t.date.month
  have hhour := t.time.hour_lt
  have hminute := t.time.minute_lt
  have hsecond := t.time.second_le
  have hset : ({} : Reading).set .year t.date.year.toNat = .ok { year := t.date.year } := by
    rw [Reading.set, if_pos (by omega), Int.toNat_of_nonneg hyear.1]
  have hyearText : t.date.yearText = padded 4 t.date.year.toNat := if_pos hyear
  rw [Date.toList_text, Time.toList_text, hyearText]
  simp only [List.append_assoc, List.cons_append]
  rw [Pattern.standard,
    Pattern.readFrom_digits (by decide) (by omega) hset,
    Pattern.readFrom_mark,
    Pattern.readFrom_digits (by decide) (by omega) (Reading.set_month _ hmonth),
    Pattern.readFrom_mark,
    Pattern.readFrom_digits (by decide) (by omega) (Reading.set_day _ ⟨hday.1, by omega⟩),
    Pattern.readFrom_markOf hc,
    Pattern.readFrom_digits (by decide) (by omega) (Reading.set_hour _ hhour),
    Pattern.readFrom_mark,
    Pattern.readFrom_digits (by decide) (by omega) (Reading.set_minute _ hminute),
    Pattern.readFrom_mark,
    Pattern.readFrom_digits (by decide) (by omega) (Reading.set_second _ hsecond)]

/-- The interchange standard wants an offset behind the numbers, and no sign before the year. -/
theorem standard_read_spaced (hf : IsFraction nano f) :
    (Pattern.standard.read (t.spaced f)).toOption = none := by
  by_cases hyear : 0 ≤ t.date.year ∧ t.date.year ≤ 9999
  · rw [Pattern.read, spaced, t.readFrom_standard hyear (by decide),
      Pattern.readFrom_cons (hf.read rfl)]
    -- All numbers are read, and no offset is left.
    rfl
  · -- A sign stands where the first digit has to stand.
    have hsign : ∃ c s, c.isDigit = false ∧
        (if t.date.year < 0 then "-" else "+").toList = c :: s := by
      split
      · exact ⟨'-', [], by decide, rfl⟩
      · exact ⟨'+', [], by decide, rfl⟩
    obtain ⟨c, s, hc, hsign⟩ := hsign
    rw [Pattern.read, spaced_eq, Date.yearText, if_neg hyear, String.toList_append, hsign,
      Pattern.standard, List.cons_append, List.cons_append]
    obtain ⟨e, he⟩ := Pattern.readFrom_digits_cons hc _
    rw [he]
    rfl

/-- The common log form wants slashes. -/
theorem commonLog_read_spaced (hf : IsFraction nano f) :
    (Pattern.commonLog.read (t.spaced f)).toOption = none := by
  have hmark : PatternItem.mark ['/'] ∈ Pattern.commonLog := by decide
  rw [Pattern.read]
  cases hread : Pattern.commonLog.readFrom {} (t.spaced f) with
  | error e => rfl
  | ok r =>
    obtain ⟨c, hc, hmem⟩ := Pattern.exists_mem_of_readFrom hmark hread
    rw [List.mem_singleton] at hc
    subst hc
    exact absurd (isDigit_or_mem_of_mem_spaced hf hmem) (by decide)

/-! ## The form that reads it -/

theorem yearFirst_spaced (hf : IsFraction nano f) :
    yearFirst (t.spaced f) = t.spaced f := by
  have hmarks : '/' ∉ t.spaced f ∧ 'T' ∉ t.spaced f ∧ ',' ∉ t.spaced f := by
    refine ⟨fun h => ?_, fun h => ?_, fun h => ?_⟩
    all_goals exact absurd (isDigit_or_mem_of_mem_spaced hf h) (by decide)
  exact yearFirst_of_not_mem hmarks.1 hmarks.2.1 hmarks.2.2

theorem yearFirstFraction_read_spaced (hf : IsFraction t.time.nano f) :
    Pattern.yearFirstFraction.read (t.spaced f) = .ok t.shown := by
  rw [Pattern.read, spaced, Pattern.yearFirstFraction, List.append_assoc, List.append_assoc,
    t.date.readFrom_text, List.singleton_append, t.time.readFrom_blanks, t.time.readFrom_text,
    Pattern.readFrom_cons (hf.read rfl)]
  exact Reading.timestamp_of_numbers t

/-- **What a timestamp shows is read from its numbers with a space between day and time.** -/
theorem ofText?_spaced (hf : IsFraction t.time.nano f) :
    ofText? (t.spaced f) = some t.shown := by
  have hstandard : StampForm.read? { pattern := .standard } (t.spaced f) = none :=
    standard_read_spaced hf
  have hcommonLog : StampForm.read? { pattern := .commonLog } (t.spaced f) = none :=
    commonLog_read_spaced hf
  have hyearFirst :
      StampForm.read? { pattern := .yearFirstFraction, uniform := true } (t.spaced f) =
        some t.shown := by
    rw [StampForm.read?, if_pos rfl, yearFirst_spaced hf, yearFirstFraction_read_spaced hf]
    rfl
  rw [ofText?, trim_spaced hf, StampForm.all, List.findSome?_cons, hstandard]
  dsimp only
  rw [List.findSome?_cons, hcommonLog]
  dsimp only
  rw [List.findSome?_cons, hyearFirst]

theorem toList_exact (t : Timestamp) : t.exact.toList = t.spaced t.time.fraction.toList := by
  have hspace : " ".toList = [' '] := rfl
  simp only [exact, spaced, String.toList_append, hspace, List.append_assoc, List.cons_append,
    List.nil_append]

/-- What a criterion shows of a timestamp is read. -/
theorem ofText?_exact (t : Timestamp) : ofText? t.exact.toList = some t.shown := by
  rw [toList_exact, ofText?_spaced t.time.isFraction_fraction]

theorem toList_toMillis (t : Timestamp) :
    t.toMillis.toList =
      t.date.text.toList ++ ' ' :: (t.time.text.toList ++ t.time.millis.toList) := by
  have hspace : " ".toList = [' '] := rfl
  simp only [toMillis, String.toList_append, hspace, List.append_assoc, List.cons_append,
    List.nil_append]

/-- What a record shows of a timestamp is read as its whole milliseconds. -/
theorem ofText?_toMillis (t : Timestamp) :
    ofText? t.toMillis.toList = some t.wholeMillis.shown := by
  have hf : IsFraction t.wholeMillis.time.nano t.time.millis.toList := by
    rw [nano_wholeMillis]
    exact t.time.isFraction_millis
  have hspaced : t.toMillis.toList = t.wholeMillis.spaced t.time.millis.toList := by
    rw [toList_toMillis, spaced, text_time_wholeMillis]
    rfl
  rw [hspaced, ofText?_spaced hf]

/-- Milliseconds show nothing of what is below them. -/
theorem toMillis_wholeMillis (t : Timestamp) : t.wholeMillis.toMillis = t.toMillis := by
  have hnano : t.time.nano / 1000000 * 1000000 / 1000000 = t.time.nano / 1000000 := by omega
  simp only [toMillis, Time.millis, text_time_wholeMillis, nano_wholeMillis, hnano]
  rfl

/-! ## What is shown -/

/-- The numbers on a clock name what is shown. -/
theorem isShown_of_reading {r : Reading} (h : r.timestamp = .ok t) : t.time.IsShown := by
  unfold Reading.timestamp at h
  dsimp only at h
  split at h
  · rename_i date time _ htime
    split at h
    · rename_i u hearlier
      cases h
      exact isShown_of_earlierBy? hearlier (Time.of_ofHms?_eq_some htime).2.2.2.2
    · cases h
  · cases h

/-- **Every timestamp that is read is shown as itself.** -/
theorem isShown_of_ofText? {s : List Char} (h : ofText? s = some t) : t.time.IsShown := by
  obtain ⟨form, -, hread⟩ := List.exists_of_findSome?_eq_some h
  unfold StampForm.read? at hread
  cases hpattern : form.pattern.read (if form.uniform then yearFirst (trim s) else trim s) with
  | error e =>
    rw [hpattern] at hread
    cases hread
  | ok u =>
    rw [hpattern] at hread
    cases hread
    rw [Pattern.read] at hpattern
    cases hnumbers : form.pattern.readFrom {} (if form.uniform then yearFirst (trim s) else trim s)
      with
    | error e =>
      rw [hnumbers] at hpattern
      cases hpattern
    | ok r =>
      rw [hnumbers] at hpattern
      exact isShown_of_reading hpattern

end Timestamp

end LogDigest
