import LogDigest.Calendar.Interchange
import LogDigest.Proofs.Numeral
import LogDigest.Proofs.Shown

/-!
# Timestamps come back from their interchange form

Whatever the year, the fraction and the second, the text that a timestamp is written as is read as
the timestamp that it shows (`Timestamp.ofInterchange_interchange`).

**How.** A pattern reads item by item, so there is one lemma for each kind of item, which says
what it reads from the text that is written for it and leaves the rest alone. A year without a
sign has four digits exactly; with a sign it may have more, and then the hyphen behind it ends it.
The second may be 60, with a fraction like any other.
-/

namespace LogDigest

open Text

attribute [local instance (high)] instPowNat

/-! ## Digits -/

/-- A reader of at most `width` digits reads those that are there. -/
theorem readDigits_append (width : Nat) {ds s : List Char} (hne : ds ≠ [])
    (hds : ∀ c ∈ ds, c.isDigit = true) (hle : ds.length ≤ width)
    (hs : NoDigitNext (s.take (width - ds.length))) :
    readDigits width (ds ++ s) = .ok (Nat.ofDigitChars 10 ds 0, s) := by
  have htake : (ds ++ s).take width = ds ++ s.take (width - ds.length) := by
    rw [List.take_append, List.take_of_length_le hle]
  have hempty : ds.isEmpty = false := by
    rw [← Bool.not_eq_true, List.isEmpty_iff]
    exact hne
  simp only [readDigits, htake, takeWhile_isDigit_append hds hs, hempty, Bool.false_eq_true,
    if_false, List.drop_left]

/-- A reader of as many digits as a numeral has reads the number. -/
theorem readDigits_padded {width n : Nat} (hwidth : 0 < width) (h : n < 10 ^ width)
    (s : List Char) : readDigits width ((padded width n).toList ++ s) = .ok (n, s) := by
  have hlength := length_padded hwidth h
  rw [readDigits_append _ (padded_ne_nil width n) isDigit_of_mem_padded (Nat.le_of_eq hlength),
    ofDigitChars_padded]
  rw [hlength, Nat.sub_self, List.take_zero]
  exact noDigitNext_nil

/-! ## Items -/

namespace Pattern

variable {p : Pattern} {item : PatternItem} {r r' : LogDigest.Reading} {s s' : List Char}

theorem readFrom_cons (h : item.read r s = .ok (r', s')) :
    readFrom (item :: p) r s = readFrom p r' s' := by
  rw [readFrom, h]
  rfl

theorem readFrom_blanks (h : trimLeft s = s) : readFrom (.blanks :: p) r s = readFrom p r s :=
  readFrom_cons (by rw [PatternItem.read, h])

theorem readFrom_markOf {chars : List Char} {c : Char} (h : chars.contains c = true)
    (s : List Char) : readFrom (.mark chars :: p) r (c :: s) = readFrom p r s := by
  refine readFrom_cons ?_
  rw [PatternItem.read, readMark, if_pos h]
  rfl

theorem readFrom_mark (c : Char) (s : List Char) :
    readFrom (.mark [c] :: p) r (c :: s) = readFrom p r s :=
  readFrom_markOf (by simp) s

/-- A mark that is no blank, and the blanks that may stand before it. -/
theorem readFrom_blanks_mark {c : Char} (hc : isBlank c = false) (s : List Char) :
    readFrom (.blanks :: .mark [c] :: p) r (c :: s) = readFrom p r s := by
  rw [readFrom_blanks, readFrom_mark]
  rw [trimLeft, List.dropWhile_cons_of_neg (by simp [hc])]

theorem readFrom_number {unit : TimeUnit} (hunit : unit ≠ .year) {n : Nat} (hn : n < 100)
    (hset : r.set unit n = .ok r') (s : List Char) :
    readFrom (.number unit :: p) r ((padded 2 n).toList ++ s) = readFrom p r' s := by
  refine readFrom_cons ?_
  have hdigits : readDigits 2 ((padded 2 n).toList ++ s) = .ok (n, s) :=
    readDigits_padded (by decide) hn s
  have hnumber : LogDigest.readNumber unit ((padded 2 n).toList ++ s) = .ok ((n : Int), s) := by
    cases unit with
    | year => exact absurd rfl hunit
    | month | day | hour | halfDayHour | minute | second =>
      simp only [LogDigest.readNumber, hdigits]
      rfl
  rw [PatternItem.read, trimLeft_append_of_digits (padded_ne_nil _ _) isDigit_of_mem_padded,
    hnumber]
  simp only [bind, Except.bind, hset]
  rfl

end Pattern

namespace Reading

variable (r : Reading) {n : Nat}

theorem set_month (h : 1 ≤ n ∧ n ≤ 12) : r.set .month n = .ok { r with month := n } :=
  if_pos (by omega)

theorem set_day (h : 1 ≤ n ∧ n ≤ 31) : r.set .day n = .ok { r with day := n } :=
  if_pos (by omega)

theorem set_hour (h : n < 24) : r.set .hour n = .ok { r with hour := n } :=
  if_pos (by omega)

theorem set_minute (h : n < 60) : r.set .minute n = .ok { r with minute := n } :=
  if_pos (by omega)

theorem set_second (h : n ≤ 60) : r.set .second n = .ok { r with second := n } :=
  if_pos (by omega)

end Reading

/-! ## Years -/

theorem readYear_of_digits {ds : List Char} (hne : ds ≠ []) (hds : ∀ c ∈ ds, c.isDigit = true)
    (s : List Char) :
    readYear (ds ++ s) = (readDigits 4 (ds ++ s)).map fun (n, rest) => ((n : Int), rest) := by
  cases ds with
  | nil => exact absurd rfl hne
  | cons c ds =>
    have hc := hds c List.mem_cons_self
    rw [List.cons_append, readYear.eq_def]
    split
    · rename_i heq
      cases heq
      exact absurd hc (by decide)
    · rename_i heq
      cases heq
      exact absurd hc (by decide)
    · rfl

/-- The digits of a year behind its sign are all read, as a hyphen follows. -/
theorem readDigits_signedYear (n : Nat) (s : List Char) :
    readDigits ((padded 4 n).toList ++ '-' :: s).length ((padded 4 n).toList ++ '-' :: s) =
      .ok (n, '-' :: s) := by
  rw [readDigits_append _ (padded_ne_nil 4 n) isDigit_of_mem_padded, ofDigitChars_padded]
  · rw [List.length_append]
    omega
  · rw [List.length_append, Nat.add_sub_cancel_left, List.take_length]
    exact noDigitNext_cons (by decide) s

theorem Date.readYear_yearText (d : Date) (s : List Char) :
    readYear (d.yearText.toList ++ '-' :: s) = .ok (d.year, '-' :: s) := by
  rw [yearText]
  split
  · rename_i h
    have hsmall : d.year.toNat < 10 ^ 4 := by omega
    rw [readYear_of_digits (padded_ne_nil _ _) isDigit_of_mem_padded,
      readDigits_padded (by decide) hsmall]
    simp only [Except.map]
    rw [Int.toNat_of_nonneg h.1]
  · rename_i h
    rw [String.toList_append]
    split
    · have hsign : "-".toList = ['-'] := rfl
      rw [hsign, List.append_assoc, List.singleton_append, readYear, readDigits_signedYear]
      simp only [Except.map]
      congr 2
      omega
    · have hsign : "+".toList = ['+'] := rfl
      rw [hsign, List.append_assoc, List.singleton_append, readYear, readDigits_signedYear]
      simp only [Except.map]
      congr 2
      omega

theorem Date.trimLeft_yearText (d : Date) (s : List Char) :
    trimLeft (d.yearText.toList ++ s) = d.yearText.toList ++ s := by
  rw [yearText]
  split
  · exact trimLeft_append_of_digits (padded_ne_nil _ _) isDigit_of_mem_padded s
  · rw [String.toList_append]
    split <;> rfl

theorem Date.readFrom_yearText {p : Pattern} {r : Reading} (d : Date) (s : List Char) :
    Pattern.readFrom (.number .year :: p) r (d.yearText.toList ++ '-' :: s) =
      Pattern.readFrom p { r with year := d.year } ('-' :: s) := by
  have hset : r.set .year d.year = .ok { r with year := d.year } := by
    have hyear := d.year_mem
    rw [Reading.set, if_pos (by omega)]
  refine Pattern.readFrom_cons ?_
  rw [PatternItem.read, d.trimLeft_yearText]
  simp only [LogDigest.readNumber, d.readYear_yearText, bind, Except.bind, hset]
  rfl

/-! ## Fractions -/

/-- Digits behind a point stand for a fraction of the second, if there are at most nine. -/
theorem readFraction_padded {width n : Nat} (hwidth : 0 < width) (hle : width ≤ 9)
    (h : n < 10 ^ width) :
    readFraction (padded width n).toList = .ok (n * 10 ^ (9 - width), []) := by
  have hlength := length_padded hwidth h
  have hdigits : readDigits 9 (padded width n).toList = .ok (n, []) := by
    have hread := readDigits_append 9 (s := []) (padded_ne_nil width n)
      isDigit_of_mem_padded (by omega) (by rw [List.take_nil]; exact noDigitNext_nil)
    rwa [List.append_nil, ofDigitChars_padded] at hread
  rw [readFraction, hdigits]
  simp only [Except.map, hlength, List.length_nil, Nat.sub_zero, List.dropWhile_nil]

/-- A text is the fraction of a second of so many nanoseconds: nothing, or a point and up to nine
digits. -/
inductive IsFraction : Nat → List Char → Prop
  | whole : IsFraction 0 []
  | digits {width n : Nat} (hwidth : 0 < width) (hle : width ≤ 9) (hn : n < 10 ^ width) :
      IsFraction (n * 10 ^ (9 - width)) ('.' :: (padded width n).toList)

theorem IsFraction.read {nano : Nat} {f : List Char} (h : IsFraction nano f) {r : Reading}
    (hr : r.nano = 0) : PatternItem.read .fraction r f = .ok ({ r with nano := nano }, []) := by
  cases h with
  | whole =>
    rw [← hr]
    rfl
  | digits hwidth hle hn =>
    rw [PatternItem.read, readFraction_padded hwidth hle hn]
    rfl

theorem IsFraction.of_padded {width n nano : Nat} (hwidth : 0 < width) (hle : width ≤ 9)
    (hn : n < 10 ^ width) (hnano : n * 10 ^ (9 - width) = nano) :
    IsFraction nano ("." ++ padded width n).toList := by
  have hpoint : ("." ++ padded width n).toList = '.' :: (padded width n).toList := by
    rw [String.toList_append]
    rfl
  rw [hpoint, ← hnano]
  exact .digits hwidth hle hn

theorem Time.isFraction_fraction (t : Time) : IsFraction t.nano t.fraction.toList := by
  have hnano := t.nano_lt
  rw [fraction]
  split
  · rename_i hzero
    rw [hzero]
    exact .whole
  · split
    · exact .of_padded (by decide) (by decide) (by omega) (by omega)
    · split
      · exact .of_padded (by decide) (by decide) (by omega) (by omega)
      · exact .of_padded (by decide) (by decide) (by omega) (by omega)

theorem Time.isFraction_millis (t : Time) :
    IsFraction (t.nano / 1000000 * 1000000) t.millis.toList := by
  have hnano := t.nano_lt
  exact .of_padded (by decide) (by decide) (by omega) rfl

/-! ## Moments -/

theorem daysInMonth_le (year : Int) (month : Nat) : daysInMonth year month ≤ 31 := by
  rw [daysInMonth.eq_def]
  split
  · split <;> decide
  all_goals decide

theorem Date.ofYmd?_numbers (d : Date) : ofYmd? d.year d.month d.day = some d :=
  dif_pos ⟨d.year_mem, d.month_mem, d.day_mem⟩

theorem Timestamp.earlierBy?_zero (t : Timestamp) : t.earlierBy? 0 = some t := by
  have hsecond := t.time.secondOfDay_lt
  have htime : t.time.atSecond (t.time.secondOfDay - 0 * 60) = t.time := by
    apply Time.eq_of_numbers
    · simp only [Time.atSecond]
      omega
    · rfl
  unfold earlierBy? Date.atSecond?
  dsimp only
  rw [if_neg (by omega), if_neg (by omega), htime]
  rfl

theorem Reading.timestamp_of_numbers (t : Timestamp) :
    Reading.timestamp
        { year := t.date.year, month := t.date.month, day := t.date.day, hour := t.time.hour,
          minute := t.time.minute, second := t.time.second, nano := t.time.nano } =
      .ok t.shown := by
  simp only [timestamp, Bool.false_eq_true, if_false, Nat.add_zero, Date.ofYmd?_numbers,
    Time.ofHms?_numbers, Timestamp.earlierBy?_zero]
  rfl

/-- **What a timestamp shows is read from what it is written as.** -/
theorem Timestamp.ofInterchange_interchange (t : Timestamp) :
    ofInterchange t.interchange = .ok t.shown := by
  have hmonth := t.date.month_mem
  have hday := t.date.day_mem
  have hdays := daysInMonth_le t.date.year t.date.month
  have hhour := t.time.hour_lt
  have hminute := t.time.minute_lt
  have hsecond := t.time.second_le
  have htext : t.interchange.toList = t.date.yearText.toList ++ '-' ::
      ((padded 2 t.date.month).toList ++ '-' :: ((padded 2 t.date.day).toList ++ 'T' ::
        ((padded 2 t.time.hour).toList ++ ':' :: ((padded 2 t.time.minute).toList ++ ':' ::
          ((padded 2 t.time.second).toList ++ t.time.fraction.toList))))) := by
    have hmarks : "-".toList = ['-'] ∧ "T".toList = ['T'] ∧ ":".toList = [':'] := ⟨rfl, rfl, rfl⟩
    simp only [interchange, Date.text, Time.text, String.toList_append, hmarks, List.append_assoc,
      List.cons_append, List.nil_append]
  rw [ofInterchange, Pattern.read, Pattern.interchange, htext, Date.readFrom_yearText,
    Pattern.readFrom_blanks_mark (by decide),
    Pattern.readFrom_number (by decide) (by omega) (Reading.set_month _ hmonth),
    Pattern.readFrom_blanks_mark (by decide),
    Pattern.readFrom_number (by decide) (by omega) (Reading.set_day _ ⟨hday.1, by omega⟩),
    Pattern.readFrom_blanks_mark (by decide),
    Pattern.readFrom_number (by decide) (by omega) (Reading.set_hour _ hhour),
    Pattern.readFrom_blanks_mark (by decide),
    Pattern.readFrom_number (by decide) (by omega) (Reading.set_minute _ hminute),
    Pattern.readFrom_blanks_mark (by decide),
    Pattern.readFrom_number (by decide) (by omega) (Reading.set_second _ hsecond),
    Pattern.readFrom_cons (t.time.isFraction_fraction.read rfl), Pattern.readFrom_blanks rfl]
  exact Reading.timestamp_of_numbers t

end LogDigest
