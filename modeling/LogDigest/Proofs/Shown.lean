import LogDigest.Proofs.Chronology
import LogDigest.Record.Basic

/-!
# What clocks show

Texts name timestamps by the numbers on a clock, and these do not tell all timestamps apart. A leap
second behind second 59 has second 60 to itself. A leap second behind any other second is shown as
the second that follows, and this is what the numbers name (`Time.shown`, `Time.ofHms?_numbers`).

**One text.** All texts are made of the numbers on a clock, so a timestamp and what it shows have
the same ones (`Time.text_shown`, `Timestamp.interchange_shown`).

**Fixed points.** What numbers name is shown as itself (`Time.of_ofHms?_eq_some`). So among the
timestamps that come from texts no two look alike; others come from a program only.
-/

namespace LogDigest

/-! ## Times of day -/

/-- The leap second at the end of a day, after so many nanoseconds of it. -/
def Time.leapSecond (nano : Nat) (h : nano < 1000000000) : Time where
  secondOfDay := 86399
  nanosBeyond := 1000000000 + nano
  secondOfDay_lt := by decide
  nanosBeyond_lt := by omega

namespace Time

/-- Whether the numbers on a clock name the time: its leap second, if it lies in one, is behind
second 59. -/
def IsShown (t : Time) : Prop := t.IsLeap → t.secondOfDay % 60 = 59

instance (t : Time) : Decidable t.IsShown :=
  inferInstanceAs (Decidable (t.IsLeap → t.secondOfDay % 60 = 59))

/-- The time that the numbers on a clock name. A leap second is shown as the second that follows,
unless it is behind second 59. -/
def shown (t : Time) : Time :=
  if h : t.IsLeap ∧ t.secondOfDay % 60 ≠ 59 then
    { secondOfDay := t.secondOfDay + 1
      nanosBeyond := t.nanosBeyond - 1000000000
      secondOfDay_lt := by
        have hsecond := t.secondOfDay_lt
        omega
      nanosBeyond_lt := by
        have hnanos := t.nanosBeyond_lt
        omega }
  else
    t

variable {t : Time}

theorem shown_of_isShown (h : t.IsShown) : t.shown = t := by
  unfold shown
  exact dif_neg fun hleap => hleap.2 (h hleap.1)

/-- A hidden leap second is the second that follows, less the billion nanoseconds before it. -/
theorem shown_of_not_isShown (h : ¬ t.IsShown) :
    t.shown.secondOfDay = t.secondOfDay + 1 ∧ t.shown.nanosBeyond = t.nanosBeyond - 1000000000 := by
  have hleap : t.IsLeap ∧ t.secondOfDay % 60 ≠ 59 := Classical.not_imp.1 h
  unfold shown
  rw [dif_pos hleap]
  exact ⟨rfl, rfl⟩

theorem isShown_shown (t : Time) : t.shown.IsShown := by
  by_cases h : t.IsShown
  · rwa [shown_of_isShown h]
  · have hnanos := t.nanosBeyond_lt
    obtain ⟨-, hbeyond⟩ := shown_of_not_isShown h
    intro hleap
    unfold IsLeap at hleap
    omega

theorem shown_eq_self_iff : t.shown = t ↔ t.IsShown := by
  constructor
  · intro h
    rw [← h]
    exact t.isShown_shown
  · exact shown_of_isShown

theorem shown_numbers (t : Time) :
    t.shown.hour = t.hour ∧ t.shown.minute = t.minute ∧ t.shown.second = t.second ∧
      t.shown.nano = t.nano := by
  by_cases h : t.IsShown
  · rw [shown_of_isShown h]
    exact ⟨rfl, rfl, rfl, rfl⟩
  · have hleap : t.IsLeap ∧ t.secondOfDay % 60 ≠ 59 := Classical.not_imp.1 h
    have hnanos := t.nanosBeyond_lt
    obtain ⟨hsecond, hbeyond⟩ := shown_of_not_isShown h
    unfold IsLeap at hleap
    unfold hour minute second nano
    rw [hsecond, hbeyond]
    omega

/-- The numbers on a clock name the time, if any do. -/
theorem ofHms?_numbers_of_isShown (h : t.IsShown) :
    ofHms? t.hour t.minute t.second t.nano = some t := by
  have hnumbers : t.hour < 24 ∧ t.minute < 60 ∧ t.second ≤ 60 ∧ t.nano < 1000000000 :=
    ⟨t.hour_lt, t.minute_lt, t.second_le, t.nano_lt⟩
  have hnanos := t.nanosBeyond_lt
  unfold IsShown IsLeap at h
  have hsecond : t.hour * 3600 + t.minute * 60 + min t.second 59 = t.secondOfDay := by
    unfold hour minute second
    omega
  have hbeyond : (t.nano + if t.second = 60 then 1000000000 else 0) = t.nanosBeyond := by
    unfold nano second
    split <;> omega
  unfold ofHms?
  rw [dif_pos hnumbers, Option.some.injEq]
  exact eq_of_numbers hsecond hbeyond

/-- What the numbers on a clock name is what they show. -/
theorem ofHms?_numbers (t : Time) : ofHms? t.hour t.minute t.second t.nano = some t.shown := by
  obtain ⟨hhour, hminute, hsecond, hnano⟩ := t.shown_numbers
  rw [← hhour, ← hminute, ← hsecond, ← hnano]
  exact ofHms?_numbers_of_isShown t.isShown_shown

/-- The time that numbers name has these numbers on a clock, and they name it. -/
theorem of_ofHms?_eq_some {h m s n : Nat} (htime : ofHms? h m s n = some t) :
    t.hour = h ∧ t.minute = m ∧ t.second = s ∧ t.nano = n ∧ t.IsShown := by
  unfold ofHms? at htime
  split at htime
  · cases htime
    unfold IsShown IsLeap hour minute second nano
    dsimp only
    split <;> omega
  · cases htime

/-! ### Texts -/

theorem text_shown (t : Time) : t.shown.text = t.text := by
  obtain ⟨hhour, hminute, hsecond, -⟩ := t.shown_numbers
  simp only [text, hhour, hminute, hsecond]

theorem fraction_shown (t : Time) : t.shown.fraction = t.fraction := by
  simp only [fraction, t.shown_numbers.2.2.2]

theorem millis_shown (t : Time) : t.shown.millis = t.millis := by
  simp only [millis, t.shown_numbers.2.2.2]

/-! ### Whole units -/

/-- The time without what is below a unit of so many nanoseconds. -/
def cut (t : Time) (unit : Nat) : Time where
  secondOfDay := t.secondOfDay
  nanosBeyond := t.nanosBeyond / unit * unit
  secondOfDay_lt := t.secondOfDay_lt
  nanosBeyond_lt := Nat.lt_of_le_of_lt (Nat.div_mul_le_self _ _) t.nanosBeyond_lt

/-- A cut into parts of a second changes no number on a clock but the nanoseconds. -/
theorem cut_numbers {unit : Nat} (h : unit ∣ 1000000000) (t : Time) :
    (t.cut unit).second = t.second ∧ (t.cut unit).nano = t.nano / unit * unit := by
  obtain ⟨k, hk⟩ := h
  have hunit : 0 < unit := Nat.pos_of_ne_zero fun hzero => by simp [hzero] at hk
  unfold second nano cut
  dsimp only
  rw [hk]
  constructor
  · rw [← Nat.div_div_eq_div_mul, ← Nat.div_div_eq_div_mul, Nat.mul_div_cancel _ hunit]
  · rw [Nat.mul_comm unit k, Nat.mul_mod_mul_right, Nat.mul_comm k unit,
      Nat.mod_mul_right_div_self]

theorem text_cut {unit : Nat} (h : unit ∣ 1000000000) (t : Time) : (t.cut unit).text = t.text := by
  unfold text
  rw [(cut_numbers h t).1]
  rfl

/-- The cut time is shown as itself exactly if the time is. -/
theorem shown_cut_eq_iff {unit : Nat} (h : unit ∣ 1000000000) {t : Time} :
    (t.cut unit).shown = t.cut unit ↔ t.IsShown := by
  obtain ⟨k, hk⟩ := h
  have hunit : 0 < unit := Nat.pos_of_ne_zero fun hzero => by simp [hzero] at hk
  have hleap : (t.cut unit).IsLeap ↔ t.IsLeap := by
    unfold IsLeap cut
    dsimp only
    rw [hk, Nat.mul_comm unit k, Nat.mul_le_mul_right_iff hunit, Nat.le_div_iff_mul_le hunit]
  rw [shown_eq_self_iff]
  unfold IsShown
  rw [hleap]
  rfl

/-- The time without the parts of its second. -/
def wholeSecond (t : Time) : Time := t.cut 1000000000

/-- The second that a clock shows. -/
def shownSecond (t : Time) : Time := t.wholeSecond.shown

theorem shownSecond_eq_wholeSecond_iff {t : Time} : t.shownSecond = t.wholeSecond ↔ t.IsShown :=
  shown_cut_eq_iff (Nat.dvd_refl _)

theorem text_wholeSecond (t : Time) : t.wholeSecond.text = t.text := text_cut (Nat.dvd_refl _) t

theorem nano_wholeSecond (t : Time) : t.wholeSecond.nano = 0 := by
  have hnano := t.nano_lt
  unfold wholeSecond
  rw [(cut_numbers (Nat.dvd_refl _) t).2]
  omega

/-- Hour, minute and second name the second that a clock shows. -/
theorem ofHms?_wholeSecond (t : Time) : ofHms? t.hour t.minute t.second 0 = some t.shownSecond := by
  have hnumbers := t.wholeSecond.ofHms?_numbers
  rw [nano_wholeSecond, wholeSecond, (cut_numbers (Nat.dvd_refl _) t).1] at hnumbers
  exact hnumbers

end Time

/-! ## Timestamps -/

namespace Timestamp

/-- The timestamp that the numbers of a timestamp name. -/
def shown (t : Timestamp) : Timestamp where
  date := t.date
  time := t.time.shown

variable {t : Timestamp}

theorem shown_eq_self_iff : t.shown = t ↔ t.time.IsShown := by
  rw [← Time.shown_eq_self_iff]
  constructor
  · intro h
    exact congrArg time h
  · intro h
    unfold shown
    rw [h]

theorem interchange_shown (t : Timestamp) : t.shown.interchange = t.interchange := by
  simp only [interchange, shown, Time.text_shown, Time.fraction_shown]

theorem toMillis_shown (t : Timestamp) : t.shown.toMillis = t.toMillis := by
  simp only [toMillis, shown, Time.text_shown, Time.millis_shown]

/-- A shift by minutes leaves the second of its minute as it is. -/
theorem isShown_of_earlierBy? {u : Timestamp} {m : Int} (h : t.earlierBy? m = some u)
    (ht : t.time.IsShown) : u.time.IsShown := by
  obtain ⟨date, -, rfl⟩ := Option.map_eq_some_iff.1 h
  unfold Time.IsShown Time.IsLeap Time.atSecond at *
  dsimp only
  omega

/-- Half a second into a leap second behind ten o'clock. -/
def hiddenLeap : Timestamp where
  date :=
    { year := 2023, month := 8, day := 15, year_mem := by decide, month_mem := by decide,
      day_mem := by decide }
  time :=
    { secondOfDay := 36000, nanosBeyond := 1500000000, secondOfDay_lt := by decide,
      nanosBeyond_lt := by decide }

example : hiddenLeap.shown ≠ hiddenLeap ∧ hiddenLeap.exact = "2023-08-15 10:00:01.500" := by
  decide

end Timestamp

/-! ## Records -/

/-- The entry with the timestamp that its own shows. -/
def Entry.shown (e : Entry) : Entry := { e with timestamp := e.timestamp.shown }

theorem Entry.shown_eq_self_iff {e : Entry} : e.shown = e ↔ e.timestamp.time.IsShown := by
  rw [← Timestamp.shown_eq_self_iff]
  constructor
  · intro h
    exact congrArg timestamp h
  · intro h
    unfold shown
    rw [h]

theorem Entry.line_shown (e : Entry) : e.shown.line = e.line := by
  simp only [line, shown, Timestamp.toMillis_shown]

/-- The record with the timestamp that its own shows. -/
def Record.shown (r : Record) : Record := { r with timestamp := r.timestamp.shown }

theorem Record.shown_eq_self_iff {r : Record} : r.shown = r ↔ r.timestamp.time.IsShown := by
  rw [← Timestamp.shown_eq_self_iff]
  constructor
  · intro h
    exact congrArg (fun s : Record => s.timestamp) h
  · intro h
    unfold shown
    rw [h]

end LogDigest
