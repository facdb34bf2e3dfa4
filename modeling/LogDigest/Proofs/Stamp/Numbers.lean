import LogDigest.Proofs.Stamp.Uses

/-!
# Numbers of one or two digits

What a pattern reads where digits stand for one of its numbers, whether they name a number of that
unit or not.

**One number.** The number is set if it has one or two digits and is one of its unit, and otherwise
the whole text is refused (`Pattern.toOption_readFrom_number`). Three digits are refused since the
third one stands where something else has to stand.

**All numbers.** Numbers that were set name a timestamp exactly when their day and their time of day
exist (`Reading.toOption_timestamp`). Numbers that are none of their unit name none anyway, so
nothing is lost by refusing them one by one (`Reading.bind_set`).
-/

namespace LogDigest

open Text

attribute [local instance (high)] instPowNat

/-! ## Digits before a mark -/

/-- The number that one or two digits name. -/
def shortNumeral? (ds : List Char) : Option Nat :=
  if ds ≠ [] ∧ ds.length ≤ 2 then some (Nat.ofDigitChars 10 ds 0) else none

theorem shortNumeral?_padded {n : Nat} (h : n < 100) :
    shortNumeral? (padded 2 n).toList = some n := by
  rw [shortNumeral?, if_pos ⟨padded_ne_nil 2 n, Nat.le_of_eq (length_padded (by decide) h)⟩,
    ofDigitChars_padded]

theorem noDigitNext_take {s : List Char} (h : NoDigitNext s) (n : Nat) :
    NoDigitNext (s.take n) := by
  cases n with
  | zero => exact noDigitNext_nil
  | succ n =>
    cases s with
    | nil => exact noDigitNext_nil
    | cons c s => exact noDigitNext_cons (h c rfl) (s.take n)

namespace Pattern

variable {p : Pattern} {r : LogDigest.Reading} {unit : TimeUnit} {c : Char} {ds s : List Char}

theorem readFrom_number_digits (hunit : unit ≠ .year) (hds : ∀ c ∈ ds, c.isDigit = true)
    (hne : ds ≠ []) (hlength : ds.length ≤ 2) (hs : NoDigitNext s) :
    readFrom (.number unit :: p) r (ds ++ s) =
      (r.set unit (Nat.ofDigitChars 10 ds 0)).bind fun r' => readFrom p r' s := by
  have hdigits : readDigits 2 (ds ++ s) = .ok (Nat.ofDigitChars 10 ds 0, s) :=
    readDigits_append 2 hne hds hlength (noDigitNext_take hs _)
  have hnumber : LogDigest.readNumber unit (ds ++ s) =
      .ok ((Nat.ofDigitChars 10 ds 0 : Int), s) := by
    cases unit with
    | year => exact absurd rfl hunit
    | month | day | hour | halfDayHour | minute | second =>
      simp only [LogDigest.readNumber, hdigits]
      rfl
  rw [readFrom, PatternItem.read, trimLeft_append_of_digits hne hds, hnumber]
  cases hset : r.set unit (Nat.ofDigitChars 10 ds 0) with
  | error e =>
    simp only [bind, Except.bind, hset]
  | ok r' =>
    simp only [bind, Except.bind, hset]
    rfl

/-- Where a number has to stand nothing but blanks, a sign and digits is read. -/
theorem readFrom_number_cons (hunit : unit ≠ .year) (hdigit : c.isDigit = false)
    (hblank : isBlank c = false) : (readFrom (.number unit :: p) r (c :: s)).toOption = none := by
  have htrim : trimLeft (c :: s) = c :: s := List.dropWhile_cons_of_neg (by simp [hblank])
  have hdigits : readDigits 2 (c :: s) = .error .invalid := by
    rw [readDigits, List.take_succ_cons, List.takeWhile_cons_of_neg (by simp [hdigit])]
    rfl
  have hnumber : LogDigest.readNumber unit (c :: s) = .error .invalid := by
    cases unit with
    | year => exact absurd rfl hunit
    | month | day | hour | halfDayHour | minute | second =>
      simp only [LogDigest.readNumber, hdigits]
      rfl
  rw [readFrom, PatternItem.read, htrim, hnumber]
  rfl

/-- **Digits where a number has to stand.** They are refused if there are none or more than two, as
long as what follows cannot be read where they have to stand or behind some of them. -/
theorem toOption_readFrom_number (hunit : unit ≠ .year) (hds : ∀ c ∈ ds, c.isDigit = true)
    (hs : NoDigitNext s) (hnone : ds = [] → (readFrom (.number unit :: p) r s).toOption = none)
    (hmore : ∀ d fs, d.isDigit = true → (∀ c ∈ fs, c.isDigit = true) → ¬ Uses p (d :: (fs ++ s))) :
    (readFrom (.number unit :: p) r (ds ++ s)).toOption =
      (shortNumeral? ds).bind fun n =>
        (r.set unit n).toOption.bind fun r' => (readFrom p r' s).toOption := by
  by_cases hne : ds = []
  · rw [hne, List.nil_append, hnone hne]
    rfl
  · by_cases hlength : ds.length ≤ 2
    · rw [readFrom_number_digits hunit hds hne hlength hs, shortNumeral?, if_pos ⟨hne, hlength⟩,
        Option.bind_some]
      cases r.set unit (Nat.ofDigitChars 10 ds 0) <;> rfl
    · rw [shortNumeral?, if_neg (fun h => hlength h.2), Option.bind_none]
      cases hread : readFrom (.number unit :: p) r (ds ++ s) with
      | error e => rfl
      | ok r' =>
        obtain ⟨d, fs, hd, hfs, hleft⟩ :=
          (uses_of_readFrom hread).exists_left_of_number hunit hds (Nat.lt_of_not_le hlength)
        exact absurd hleft (hmore d fs hd hfs)

theorem readFrom_number_mark (hunit : unit ≠ .year) (hds : ∀ c ∈ ds, c.isDigit = true)
    (hdigit : c.isDigit = false) (hblank : isBlank c = false) (s : List Char) :
    (readFrom (.number unit :: .mark [c] :: p) r (ds ++ c :: s)).toOption =
      (shortNumeral? ds).bind fun n =>
        (r.set unit n).toOption.bind fun r' => (readFrom p r' s).toOption := by
  rw [toOption_readFrom_number hunit hds (noDigitNext_cons hdigit s)
    fun _ => readFrom_number_cons hunit hdigit hblank]
  · simp only [readFrom_mark]
  · rintro d fs hd - ⟨mark, rest, hs, ⟨e, he, rfl⟩, -⟩
    obtain rfl := List.mem_singleton.1 he
    cases hs
    rw [hdigit] at hd
    cases hd

/-- A number skips the blanks before it, so it does not matter whether they are skipped already. -/
theorem readFrom_blanks_number :
    readFrom (.blanks :: .number unit :: p) r s = readFrom (.number unit :: p) r s := by
  have htwice : trimLeft (trimLeft s) = trimLeft s :=
    trimLeft_of_endsRun (endsRun_dropWhile isBlank s)
  rw [readFrom_cons rfl, readFrom, readFrom, PatternItem.read, PatternItem.read, htwice]

theorem readFrom_number_blank (hblank : isBlank c = true) :
    readFrom (.number unit :: p) r (c :: s) = readFrom (.number unit :: p) r s := by
  have htrim : trimLeft (c :: s) = trimLeft s := List.dropWhile_cons_of_pos hblank
  rw [readFrom, readFrom, PatternItem.read, PatternItem.read, htrim]

/-- Digits before a blank, another number and its mark. The blank ends the digits: if they were
taken for both numbers, the blank would have to be the mark. -/
theorem readFrom_number_blanks_number {next : TimeUnit} {b : Char} (hunit : unit ≠ .year)
    (hnext : next ≠ .year) (hds : ∀ c ∈ ds, c.isDigit = true) (hne : ds ≠ [])
    (hb : isBlank b = true) (hc : isBlank c = false) (hdigit : c.isDigit = false) :
    (readFrom (.number unit :: .blanks :: .number next :: .mark [c] :: p) r
        (ds ++ b :: s)).toOption =
      (shortNumeral? ds).bind fun n =>
        (r.set unit n).toOption.bind fun r' =>
          (readFrom (.number next :: .mark [c] :: p) r' s).toOption := by
  have hbdigit : b.isDigit = false := by
    rw [← Bool.not_eq_true]
    intro h
    rw [isBlank_of_isDigit h] at hb
    cases hb
  have hnextDigit := noDigitNext_cons hbdigit s
  rw [toOption_readFrom_number hunit hds hnextDigit fun h => absurd h hne]
  · simp only [readFrom_blanks_number, readFrom_number_blank hb]
  · intro d fs hd hfs hleft
    have hnumber : Uses (.number next :: .mark [c] :: p) ((d :: fs) ++ b :: s) :=
      hleft.of_blanks (isBlank_of_isDigit hd)
    obtain ⟨-, t, ht, -⟩ := hnumber.exists_of_number_mark hnext hdigit
      (List.forall_mem_cons.2 ⟨hd, hfs⟩) (List.cons_ne_nil d fs) hnextDigit
    cases ht
    rw [hc] at hb
    cases hb

end Pattern

/-! ## Setting numbers -/

def TimeUnit.least : TimeUnit → Nat
  | .month | .day | .halfDayHour => 1
  | .year | .hour | .minute | .second => 0

/-- The greatest number of a unit; that of a year is bounded by 32 bits here. -/
def TimeUnit.greatest : TimeUnit → Nat
  | .year => 2147483647
  | .month | .halfDayHour => 12
  | .day => 31
  | .hour => 23
  | .minute => 59
  | .second => 60

abbrev TimeUnit.Allows (unit : TimeUnit) (n : Nat) : Prop := unit.least ≤ n ∧ n ≤ unit.greatest

theorem Date.numbers_of_ofYmd? {year : Int} {month day : Nat} {d : Date}
    (h : ofYmd? year month day = some d) : d.year = year ∧ d.month = month ∧ d.day = day := by
  rw [ofYmd?] at h
  split at h
  · cases h
    exact ⟨rfl, rfl, rfl⟩
  · cases h

/-- No day of the calendar has a month or a day that the units do not allow. -/
theorem Date.ofYmd?_eq_none {year : Int} {month day : Nat}
    (h : ¬ (TimeUnit.month.Allows month ∧ TimeUnit.day.Allows day)) :
    ofYmd? year month day = none := by
  cases hdate : ofYmd? year month day with
  | none => rfl
  | some d =>
    obtain ⟨rfl, rfl, rfl⟩ := numbers_of_ofYmd? hdate
    exact absurd ⟨d.month_mem, d.day_mem.1, d.day_mem.2.trans (daysInMonth_le _ _)⟩ h

/-- No time of day has an hour, a minute or a second that the units do not allow. -/
theorem Time.ofHms?_eq_none {hour minute second nano : Nat}
    (h : ¬ (TimeUnit.hour.Allows hour ∧ TimeUnit.minute.Allows minute ∧
      TimeUnit.second.Allows second)) : ofHms? hour minute second nano = none := by
  cases htime : ofHms? hour minute second nano with
  | none => rfl
  | some t =>
    obtain ⟨rfl, rfl, rfl, rfl, -⟩ := of_ofHms?_eq_some htime
    exact absurd ⟨⟨Nat.zero_le _, Nat.le_of_lt_succ t.hour_lt⟩,
      ⟨Nat.zero_le _, Nat.le_of_lt_succ t.minute_lt⟩, Nat.zero_le _, t.second_le⟩ h

namespace Reading

/-- The numbers read so far and one more. -/
def put (r : Reading) : TimeUnit → Nat → Reading
  | .year, n => { r with year := n }
  | .month, n => { r with month := n }
  | .day, n => { r with day := n }
  | .hour, n => { r with hour := n }
  | .halfDayHour, n => { r with hour := n % 12 }
  | .minute, n => { r with minute := n }
  | .second, n => { r with second := n }

theorem toOption_set (r : Reading) (unit : TimeUnit) (n : Nat) :
    (r.set unit n).toOption = if unit.Allows n then some (r.put unit n) else none := by
  by_cases h : unit.Allows n
  · rw [if_pos h]
    cases unit with
    | year | month | day | hour | halfDayHour | minute | second =>
      simp only [TimeUnit.Allows, TimeUnit.least, TimeUnit.greatest] at h
      rw [set, if_pos (by omega)]
      rfl
  · rw [if_neg h]
    cases unit with
    | year | month | day | hour | halfDayHour | minute | second =>
      simp only [TimeUnit.Allows, TimeUnit.least, TimeUnit.greatest] at h
      rw [set, if_neg (by omega)]
      rfl

/-- A number that its unit does not have spoils the whole text. -/
theorem bind_set {α : Type} (r : Reading) (unit : TimeUnit) (n : Nat) (f : Reading → Option α) :
    (r.set unit n).toOption.bind f = if unit.Allows n then f (r.put unit n) else none := by
  rw [toOption_set]
  split <;> rfl

/-- **All numbers.** Without an offset and a half day, numbers name the day and the time of day that
they name. -/
theorem toOption_timestamp {r : Reading} (hoffset : r.offset = 0)
    (hafternoon : r.afternoon = false) :
    r.timestamp.toOption =
      (Date.ofYmd? r.year r.month r.day).bind fun date =>
        (Time.ofHms? r.hour r.minute r.second r.nano).map fun time => { date, time } := by
  have hhour : r.hour + (if r.afternoon then 12 else 0) = r.hour := by rw [hafternoon]; rfl
  cases hdate : Date.ofYmd? r.year r.month r.day with
  | none =>
    simp only [timestamp, hdate]
    rfl
  | some date =>
    cases htime : Time.ofHms? r.hour r.minute r.second r.nano with
    | none =>
      simp only [timestamp, hdate, hhour, htime]
      rfl
    | some time =>
      simp only [timestamp, hdate, hhour, htime, hoffset, Timestamp.earlierBy?_zero]
      rfl

end Reading

/-! ## Years and whole texts -/

/-- Four digits are read as a year, whatever stands behind them. -/
theorem Pattern.readFrom_year {p : Pattern} {r : LogDigest.Reading} {year : Nat}
    (hyear : year < 10000) (s : List Char) :
    readFrom (.number .year :: p) r ((padded 4 year).toList ++ s) =
      readFrom p (r.put .year year) s := by
  have hset : r.set .year year = .ok (r.put .year year) := by
    rw [Reading.set, if_pos (by omega)]
    rfl
  refine readFrom_cons ?_
  rw [PatternItem.read, trimLeft_append_of_digits (padded_ne_nil _ _) isDigit_of_mem_padded,
    LogDigest.readNumber, readYear_of_digits (padded_ne_nil _ _) isDigit_of_mem_padded,
    readDigits_padded (by decide) hyear]
  simp only [Except.map, bind, Except.bind, hset]
  rfl

/-- The numbers of a text have to name a timestamp. -/
theorem Pattern.toOption_read (p : Pattern) (s : List Char) :
    (p.read s).toOption = (p.readFrom {} s).toOption.bind fun r => r.timestamp.toOption := by
  rw [Pattern.read]
  cases p.readFrom {} s <;> rfl

end LogDigest
