import LogDigest.Proofs.Chronology
import Mathlib.Order.Monotone.Basic

/-!
# Days and seconds are numbered in their order

Every day has a number, so every second of every day has one, and a timestamp is the number of its
second with the nanoseconds beyond it (`Timestamp.instant`). This is another reading of a timestamp
than its year, month and day: here a shift by some minutes is a subtraction.

**Days.** The first day of a year or a month follows the last day of the one before. So a lesser
year, month or day has a lesser number, and neighbours have neighbouring numbers
(`Date.exists_pred?`, `Date.exists_succ?`).

**One order.** Both readings order the timestamps alike, so they also tell the same of them apart
(`Timestamp.lt_iff_instant`, `Timestamp.instant_inj`).

**Shifts.** Shifting by minutes, less than a day of them, subtracts from the number of the second
and leaves the nanoseconds alone, those of a leap second too (`Timestamp.exists_earlierBy?`).
-/

namespace LogDigest

-- The order of lists here is that of the core library, whatever is imported beside this module.
attribute [local instance (high)] List.instLT

/-! ## Days -/

theorem one_le_daysInMonth (year : Int) (month : Nat) : 1 ≤ daysInMonth year month := by
  rw [daysInMonth.eq_def]
  split
  · split <;> decide
  all_goals decide

namespace Date

/-- The number of days before a year, counted from 1 January of year 1. -/
def daysBeforeYear (year : Int) : Int :=
  365 * (year - 1) + (year - 1) / 4 - (year - 1) / 100 + (year - 1) / 400

theorem dayNumber_eq (d : Date) :
    d.dayNumber = daysBeforeYear d.year + daysBeforeMonth d.year d.month + d.day := rfl

/-- A month begins when the one before it is over. -/
theorem daysBeforeMonth_add_one (year : Int) {month : Nat} (h : 1 ≤ month) :
    daysBeforeMonth year (month + 1) = daysBeforeMonth year month + daysInMonth year month := by
  cases month with
  | zero => cases h
  | succ m => rfl

theorem daysBeforeMonth_monotone (year : Int) : Monotone (daysBeforeMonth year) := by
  refine monotone_nat_of_le_succ fun m => ?_
  cases m with
  | zero => exact Nat.le_refl _
  | succ m => exact Nat.le_add_right _ _

/-- A year begins when the twelve months of the one before it are over. -/
theorem daysBeforeYear_add_one (year : Int) :
    daysBeforeYear (year + 1) = daysBeforeYear year + daysBeforeMonth year 13 := by
  have hmonths : daysBeforeMonth year 13 = if isLeapYear year then 366 else 365 := by
    simp only [daysBeforeMonth, daysInMonth]
    split <;> rfl
  have hleap : isLeapYear year = true ↔ year % 4 = 0 ∧ (year % 100 ≠ 0 ∨ year % 400 = 0) := by
    simp [isLeapYear]
  rw [hmonths, daysBeforeYear, daysBeforeYear]
  split
  · rename_i h
    have hyear := hleap.1 h
    omega
  · rename_i h
    have hyear := hleap.not.1 h
    omega

theorem daysBeforeYear_le {y z : Int} (h : y ≤ z) : daysBeforeYear y ≤ daysBeforeYear z := by
  rw [daysBeforeYear, daysBeforeYear]
  omega

variable {d e : Date}

/-- A day lies before the next month begins. -/
theorem daysBeforeMonth_add_day_le (d : Date) :
    daysBeforeMonth d.year d.month + d.day ≤ daysBeforeMonth d.year (d.month + 1) := by
  rw [daysBeforeMonth_add_one _ d.month_mem.1]
  exact Nat.add_le_add_left d.day_mem.2 _

theorem dayNumber_lt_of_year_lt (h : d.year < e.year) : d.dayNumber < e.dayNumber := by
  have hmonth := d.daysBeforeMonth_add_day_le
  have hmonths : daysBeforeMonth d.year (d.month + 1) ≤ daysBeforeMonth d.year 13 :=
    daysBeforeMonth_monotone _ (Nat.succ_le_succ d.month_mem.2)
  have hyear := daysBeforeYear_add_one d.year
  have hyears : daysBeforeYear (d.year + 1) ≤ daysBeforeYear e.year := daysBeforeYear_le h
  have hday := e.day_mem.1
  rw [dayNumber_eq, dayNumber_eq]
  omega

theorem dayNumber_lt_of_month_lt (hyear : d.year = e.year) (h : d.month < e.month) :
    d.dayNumber < e.dayNumber := by
  have hmonth := d.daysBeforeMonth_add_day_le
  have hmonths : daysBeforeMonth d.year (d.month + 1) ≤ daysBeforeMonth d.year e.month :=
    daysBeforeMonth_monotone _ h
  have hday := e.day_mem.1
  rw [dayNumber_eq, dayNumber_eq, ← hyear]
  omega

theorem dayNumber_lt_of_day_lt (hyear : d.year = e.year) (hmonth : d.month = e.month)
    (h : d.day < e.day) : d.dayNumber < e.dayNumber := by
  rw [dayNumber_eq, dayNumber_eq, hyear, hmonth]
  omega

/-- The number of the day that a year, a month and a day of the month name. -/
theorem exists_ofYmd? {year : Int} {month day : Nat} (hyear : -262143 ≤ year ∧ year ≤ 262142)
    (hmonth : 1 ≤ month ∧ month ≤ 12) (hday : 1 ≤ day ∧ day ≤ daysInMonth year month) :
    ∃ e, ofYmd? year month day = some e ∧
      e.dayNumber = daysBeforeYear year + daysBeforeMonth year month + day :=
  ⟨_, dif_pos ⟨hyear, hmonth, hday⟩, rfl⟩

theorem exists_pred? (d : Date) (h : -262143 < d.year) :
    ∃ e, d.pred? = some e ∧ e.dayNumber = d.dayNumber - 1 := by
  have hyear := d.year_mem
  have hmonth := d.month_mem
  have hday := d.day_mem
  rw [pred?, dayNumber_eq]
  split
  · have hbefore : 1 ≤ d.day - 1 ∧ d.day - 1 ≤ daysInMonth d.year d.month := by omega
    obtain ⟨e, he, hnumber⟩ := exists_ofYmd? hyear hmonth hbefore
    exact ⟨e, he, by omega⟩
  · split
    · have hbefore : 1 ≤ d.month - 1 ∧ d.month - 1 ≤ 12 := by omega
      have hnext := daysBeforeMonth_add_one d.year hbefore.1
      rw [Nat.sub_add_cancel hmonth.1] at hnext
      obtain ⟨e, he, hnumber⟩ := exists_ofYmd? hyear hbefore ⟨one_le_daysInMonth _ _, Nat.le_refl _⟩
      exact ⟨e, he, by omega⟩
    · have hfirst : d.month = 1 := by omega
      have hnext : daysBeforeMonth (d.year - 1) 13 = daysBeforeMonth (d.year - 1) 12 + 31 := rfl
      have hnextYear := daysBeforeYear_add_one (d.year - 1)
      rw [Int.sub_add_cancel] at hnextYear
      obtain ⟨e, he, hnumber⟩ := @exists_ofYmd? (d.year - 1) 12 31 (by omega) (by decide)
        ⟨by decide, Nat.le_refl 31⟩
      have hzero : daysBeforeMonth d.year d.month = 0 := by rw [hfirst]; rfl
      exact ⟨e, he, by omega⟩

theorem exists_succ? (d : Date) (h : d.year < 262142) :
    ∃ e, d.succ? = some e ∧ e.dayNumber = d.dayNumber + 1 := by
  have hyear := d.year_mem
  have hmonth := d.month_mem
  have hday := d.day_mem
  have hnext := daysBeforeMonth_add_one d.year hmonth.1
  rw [succ?, dayNumber_eq]
  split
  · have hafter : 1 ≤ d.day + 1 ∧ d.day + 1 ≤ daysInMonth d.year d.month := by omega
    obtain ⟨e, he, hnumber⟩ := exists_ofYmd? hyear hmonth hafter
    exact ⟨e, he, by omega⟩
  · split
    · have hafter : 1 ≤ d.month + 1 ∧ d.month + 1 ≤ 12 := by omega
      obtain ⟨e, he, hnumber⟩ := exists_ofYmd? hyear hafter ⟨Nat.le_refl 1, one_le_daysInMonth _ _⟩
      exact ⟨e, he, by omega⟩
    · have hlast : d.month + 1 = 13 := by omega
      have hnextYear := daysBeforeYear_add_one d.year
      have hzero : daysBeforeMonth (d.year + 1) 1 = 0 := rfl
      obtain ⟨e, he, hnumber⟩ := @exists_ofYmd? (d.year + 1) 1 1 (by omega) (by decide)
        ⟨Nat.le_refl 1, one_le_daysInMonth _ 1⟩
      rw [hlast] at hnext
      exact ⟨e, he, by omega⟩

end Date

/-! ## Instants -/

namespace Timestamp

/-- The number of the second of a timestamp, counted from the day before 1 January of year 1. -/
def secondNumber (t : Timestamp) : Int := t.date.dayNumber * 86400 + t.time.secondOfDay

/-- The instant that a timestamp in universal time denotes: the number of its second and the
nanoseconds beyond it. Instants are ordered by these numbers, the larger unit first. -/
def instant (t : Timestamp) : List Int := [t.secondNumber, t.time.nanosBeyond]

variable {t u : Timestamp}

theorem secondNumber_lt_of_dayNumber_lt (h : t.date.dayNumber < u.date.dayNumber) :
    t.secondNumber < u.secondNumber := by
  have ht := t.time.secondOfDay_lt
  rw [secondNumber, secondNumber]
  omega

/-- The earlier timestamp denotes the earlier instant. -/
theorem instant_lt_of_lt (h : t < u) : t.instant < u.instant := by
  have hunits : t.units < u.units := h
  simp only [units, List.cons_lt_cons_iff, Int.ofNat_lt, Int.natCast_inj] at hunits
  simp only [instant, List.cons_lt_cons_iff, Int.ofNat_lt, Int.natCast_inj]
  rcases hunits with hyear | ⟨hyear, hmonth | ⟨hmonth, hday | ⟨hday, hclock⟩⟩⟩
  · exact Or.inl (secondNumber_lt_of_dayNumber_lt (Date.dayNumber_lt_of_year_lt hyear))
  · exact Or.inl (secondNumber_lt_of_dayNumber_lt (Date.dayNumber_lt_of_month_lt hyear hmonth))
  · exact Or.inl (secondNumber_lt_of_dayNumber_lt (Date.dayNumber_lt_of_day_lt hyear hmonth hday))
  · have hdate : t.date = u.date := Date.eq_of_numbers hyear hmonth hday
    rcases hclock with hsecond | ⟨hsecond, hnanos⟩
    · refine Or.inl ?_
      rw [secondNumber, secondNumber, hdate]
      omega
    · refine Or.inr ⟨?_, hnanos⟩
      rw [secondNumber, secondNumber, hdate, hsecond]

/-- Timestamps are ordered as the instants that they denote. -/
theorem lt_iff_instant : t < u ↔ t.instant < u.instant := by
  refine ⟨instant_lt_of_lt, fun h => ?_⟩
  rcases t.le_total u with htu | hut
  · by_cases hne : u ≤ t
    · rw [Timestamp.le_antisymm htu hne] at h
      exact absurd h (List.lt_irrefl _)
    · exact Decidable.not_not.1 hne
  · by_cases hlt : u < t
    · exact absurd h (List.lt_asymm (instant_lt_of_lt hlt))
    · rw [Timestamp.le_antisymm hlt hut] at h
      exact absurd h (List.lt_irrefl _)

/-- A timestamp is known from the instant that it denotes. -/
theorem instant_inj : t.instant = u.instant ↔ t = u := by
  constructor
  · intro h
    have hirrefl : ¬ t.instant < u.instant := h ▸ List.lt_irrefl t.instant
    have hirrefl' : ¬ u.instant < t.instant := h ▸ List.lt_irrefl t.instant
    exact Timestamp.le_antisymm (fun hlt => hirrefl' (instant_lt_of_lt hlt))
      fun hlt => hirrefl (instant_lt_of_lt hlt)
  · rintro rfl
    rfl

/-! ## Shifts -/

theorem exists_atSecond? (d : Date) {s : Int} (hs : -86400 ≤ s ∧ s < 172800)
    (hyear : -262143 < d.year ∧ d.year < 262142) :
    ∃ e, d.atSecond? s = some e ∧ e.dayNumber * 86400 + s % 86400 = d.dayNumber * 86400 + s := by
  rw [Date.atSecond?]
  split
  · obtain ⟨e, he, hnumber⟩ := d.exists_pred? hyear.1
    exact ⟨e, he, by omega⟩
  · split
    · obtain ⟨e, he, hnumber⟩ := d.exists_succ? hyear.2
      exact ⟨e, he, by omega⟩
    · exact ⟨d, rfl, by omega⟩

/-- A shift by less than a day subtracts from the number of the second, if no end of the calendar is
near. -/
theorem exists_earlierBy? (t : Timestamp) {m : Int} (hm : -1440 < m ∧ m < 1440)
    (hyear : -262143 < t.date.year ∧ t.date.year < 262142) :
    ∃ u, t.earlierBy? m = some u ∧ u.secondNumber = t.secondNumber - m * 60 ∧
      u.time.nanosBeyond = t.time.nanosBeyond := by
  have hsecond := t.time.secondOfDay_lt
  obtain ⟨date, hdate, hnumber⟩ := @exists_atSecond? t.date (t.time.secondOfDay - m * 60)
    (by omega) hyear
  rw [earlierBy?, hdate, Option.map_some]
  refine ⟨_, rfl, ?_, rfl⟩
  simp only [secondNumber, Time.atSecond]
  omega

end Timestamp

end LogDigest
