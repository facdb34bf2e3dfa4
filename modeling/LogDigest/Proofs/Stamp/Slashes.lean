import LogDigest.Proofs.Stamp.Kinds
import LogDigest.Proofs.Stamp.Numbers

/-!
# Dates with slashes are read month first, else day first

Two numbers of two digits and a year, with slashes between them, are the day with that month and
that day of the month if the calendar has it, else the day with the two exchanged, else nothing
(`Date.monthFirst?`). This holds with a time of day behind the date and without one, where it means
midnight (`Timestamp.ofText?_slashes`).

**Either table.** What follows the date is read as one time of day in every case (`ReadsTime`), so
one lemma serves both kinds (`Pattern.toOption_read_slashes`).

**Exchanging the numbers.** If one reading at most is real, it is found either way. So the order of
the numbers matters exactly if both are real and the numbers differ (`Date.monthFirst?_ne_iff`).
-/

namespace LogDigest

open Text

/-! ## The two readings -/

/-- The day that two numbers and a year name, month first if there is such a day. -/
def Date.monthFirst? (a b : Nat) (year : Int) : Option Date :=
  (ofYmd? year a b).or (ofYmd? year b a)

theorem Date.monthFirst?_ne_iff {a b : Nat} {year : Int} :
    monthFirst? a b year ≠ monthFirst? b a year ↔
      (ofYmd? year a b).isSome ∧ (ofYmd? year b a).isSome ∧ a ≠ b := by
  rw [monthFirst?, monthFirst?]
  cases hab : ofYmd? year a b with
  | none => cases ofYmd? year b a <;> simp
  | some d =>
    cases hba : ofYmd? year b a with
    | none => simp
    | some e =>
      obtain ⟨-, hmonth, -⟩ := numbers_of_ofYmd? hab
      obtain ⟨-, hmonth', -⟩ := numbers_of_ofYmd? hba
      have hdays : d = e ↔ a = b := by
        constructor
        · rintro rfl
          exact hmonth.symm.trans hmonth'
        · rintro rfl
          exact Option.some.inj (hab.symm.trans hba)
      simp [hdays]

/-! ## The text -/

/-- Two numbers and a year with slashes between them. -/
def slashText (a b year : Nat) : List Char :=
  (padded 2 a).toList ++ '/' :: ((padded 2 b).toList ++ '/' :: (padded 4 year).toList)

theorem slashText_append (a b year : Nat) (s : List Char) :
    slashText a b year ++ s =
      (padded 2 a).toList ++ '/' ::
        ((padded 2 b).toList ++ '/' :: ((padded 4 year).toList ++ s)) := by
  simp only [slashText, List.append_assoc, List.cons_append]

theorem isWord_slashText (a b year : Nat) : IsWord (slashText a b year) := by
  have hmark : isBlank '/' = false := by decide
  refine (isWord_padded 2 a).append_noBlank ?_
  simp only [noBlank_cons, noBlank_append, hmark, (isWord_padded _ _).2, and_self]

/-- A time of day behind a text, with a space between them. -/
def clockBehind (time : Time) : List Char := ' ' :: time.text.toList

theorem trim_slashText (a b year : Nat) (time : Time) :
    trim (slashText a b year ++ clockBehind time) = slashText a b year ++ clockBehind time := by
  rw [clockBehind, ← List.singleton_append]
  exact trim_isWord_append (isWord_slashText a b year) _ time.isWord_text

theorem Outline.ofText_clockBehind (time : Time) :
    ofText (clockBehind time) = ⟨none, 2, false⟩ := by
  rw [clockBehind, time.toList_text]
  simp only [ofText_cons, ofText_append isDigit_of_mem_padded]
  have hlast : ofText (padded 2 time.second).toList = ofText [] := by
    rw [← ofText_append isDigit_of_mem_padded [], List.append_nil]
  rw [hlast]
  decide

/-- Slashes decide the kind of a text with two digits before the first of them. -/
theorem StampKind.ofText_slashText {a : Nat} (ha : a < 100) (b year : Nat) (s : List Char) :
    ofText (slashText a b year ++ s) =
      Outline.kind ⟨some '/', (Outline.ofText s).colons, (Outline.ofText s).lettered⟩ := by
  have hyear : opensWithYear (slashText a b year ++ s) = false := by
    rw [← Bool.not_eq_true]
    intro hopens
    obtain ⟨c, d, e, f, mark, t, hs, hdigits, -⟩ := isDigit_of_opensWithYear hopens
    rw [slashText_append] at hs
    match h : (padded 2 a).toList, length_padded (by decide) ha with
    | [x, y], _ =>
      rw [h] at hs
      simp only [List.cons_append, List.nil_append, List.cons.injEq] at hs
      have hslash := hdigits e (by simp)
      rw [← hs.2.2.1] at hslash
      revert hslash
      decide
  have houtline : Outline.ofText (slashText a b year ++ s) =
      ⟨some '/', (Outline.ofText s).colons, (Outline.ofText s).lettered⟩ := by
    simp only [slashText_append, Outline.ofText_append isDigit_of_mem_padded, Outline.ofText_cons]
    rfl
  rw [ofText, LogDigest.yearFirst, hyear, ← houtline]
  rfl

/-! ## Reading -/

/-- The time of day that a text names behind a date, read by the items behind that date. -/
def ReadsTime (p : Pattern) (s : List Char) (time : Time) : Prop :=
  ∀ (year : Int) (month day : Nat),
    p.readFrom { year, month, day } s =
      .ok { year, month, day, hour := time.hour, minute := time.minute, second := time.second }

theorem readsTime_nil : ReadsTime [] [] .midnight := fun _ _ _ => rfl

theorem readsTime_clock (time : Time) :
    ReadsTime ([.blanks] ++ Pattern.clock) (clockBehind time) time := by
  intro year month day
  have htext : clockBehind time = ' ' :: (time.text.toList ++ []) := by
    rw [clockBehind, List.append_nil]
  have hclock : Pattern.clock = Pattern.clock ++ [] := (List.append_nil _).symm
  rw [htext, List.singleton_append, time.readFrom_blanks, hclock, time.readFrom_text]
  rfl

/-- Two numbers and a year are set one after the other. -/
theorem Pattern.readFrom_slashes {p : Pattern} {u v : TimeUnit} {a b year : Nat}
    (hu : u ≠ .year) (hv : v ≠ .year) (ha : a < 100) (hb : b < 100) (hyear : year < 10000)
    (s : List Char) :
    (readFrom (dateBy '/' u v .year ++ p) {} (slashText a b year ++ s)).toOption =
      if u.Allows a then
        if v.Allows b then
          (readFrom p (((({} : LogDigest.Reading).put u a).put v b).put .year year) s).toOption
        else none
      else none := by
  simp only [slashText_append, dateBy, List.cons_append, List.nil_append]
  rw [readFrom_number_mark hu isDigit_of_mem_padded (by decide) (by decide),
    shortNumeral?_padded ha, Option.bind_some, Reading.bind_set]
  split
  · rw [readFrom_number_mark hv isDigit_of_mem_padded (by decide) (by decide),
      shortNumeral?_padded hb, Option.bind_some, Reading.bind_set]
    split
    · rw [readFrom_year hyear]
    · rfl
  · rfl

theorem ReadsTime.toOption_timestamp {p : Pattern} {s : List Char} {time : Time}
    (h : ReadsTime p s time) (year : Int) (month day : Nat) :
    ((p.readFrom { year, month, day } s).toOption.bind fun r => r.timestamp.toOption) =
      (Date.ofYmd? year month day).map fun date => { date, time := time.shownSecond } := by
  have htime := time.ofHms?_wholeSecond
  have hnumbers := Reading.toOption_timestamp
    (r := { year, month, day, hour := time.hour, minute := time.minute, second := time.second })
    rfl rfl
  rw [h]
  refine hnumbers.trans ?_
  rw [htime]
  cases Date.ofYmd? year month day <;> rfl

/-- **Both readings of a date.** Read month first and read day first, the numbers name a day or
nothing. -/
theorem Pattern.toOption_read_slashes {p : Pattern} {a b year : Nat} {s : List Char} {time : Time}
    (ha : a < 100) (hb : b < 100) (hyear : year < 10000) (hs : ReadsTime p s time) :
    (Pattern.read (dateBy '/' .month .day .year ++ p) (slashText a b year ++ s)).toOption =
        (Date.ofYmd? year a b).map (fun date => { date, time := time.shownSecond }) ∧
      (Pattern.read (dateBy '/' .day .month .year ++ p) (slashText a b year ++ s)).toOption =
        (Date.ofYmd? year b a).map (fun date => { date, time := time.shownSecond }) := by
  constructor
  · rw [toOption_read, readFrom_slashes (u := .month) (v := .day) nofun nofun ha hb hyear]
    split
    · split
      · exact hs.toOption_timestamp year a b
      · rw [Date.ofYmd?_eq_none fun h => absurd h.2 ‹_›]
        rfl
    · rw [Date.ofYmd?_eq_none fun h => absurd h.1 ‹_›]
      rfl
  · rw [toOption_read, readFrom_slashes (u := .day) (v := .month) nofun nofun ha hb hyear]
    split
    · split
      · exact hs.toOption_timestamp year b a
      · rw [Date.ofYmd?_eq_none fun h => absurd h.1 ‹_›]
        rfl
    · rw [Date.ofYmd?_eq_none fun h => absurd h.2 ‹_›]
      rfl

/-! ## The result -/

namespace Timestamp

variable {a b year : Nat}

/-- Of a month-first form and its day-first form, the first that reads the text decides. -/
theorem findSome?_slashes {f g : StampForm} {s : List Char} {time : Time}
    (hf : f.read? s = (Date.ofYmd? year a b).map fun date => { date, time })
    (hg : g.read? s = (Date.ofYmd? year b a).map fun date => { date, time }) :
    [f, g].findSome? (·.read? s) =
      (Date.monthFirst? a b year).map fun date => { date, time } := by
  rw [List.findSome?_cons, hf, Date.monthFirst?]
  cases Date.ofYmd? year a b with
  | some d => rfl
  | none =>
    rw [Option.map_none, Option.none_or]
    dsimp only
    rw [List.findSome?_cons, hg]
    cases Date.ofYmd? year b a <;> rfl

theorem ofText?_slashText_clock (ha : a < 100) (hb : b < 100) (hyear : year < 10000)
    (time : Time) :
    ofText? (slashText a b year ++ clockBehind time) =
      (Date.monthFirst? a b year).map fun date => { date, time := time.shownSecond } := by
  obtain ⟨hmonth, hday⟩ := Pattern.toOption_read_slashes ha hb hyear (readsTime_clock time)
  have hkind : StampKind.ofText (slashText a b year ++ clockBehind time) = .slashed := by
    rw [StampKind.ofText_slashText ha, Outline.ofText_clockBehind]
    rfl
  rw [ofText?_eq_forms, trim_slashText, hkind]
  exact findSome?_slashes hmonth hday

theorem ofText?_slashText (ha : a < 100) (hb : b < 100) (hyear : year < 10000) :
    ofText? (slashText a b year) =
      (Date.monthFirst? a b year).map fun date => { date, time := .midnight } := by
  obtain ⟨hmonth, hday⟩ := Pattern.toOption_read_slashes ha hb hyear readsTime_nil
  have hkind : StampKind.ofText (slashText a b year) = .slashedDate := by
    have hbare := StampKind.ofText_slashText ha b year []
    rw [List.append_nil] at hbare
    rw [hbare]
    rfl
  rw [List.append_nil, List.append_nil] at hmonth hday
  rw [ofText?_eq_forms, trim_isWord (isWord_slashText a b year), hkind]
  exact findSome?_slashes hmonth hday

theorem map_monthFirst?_ne_iff {time : Time} :
    ((Date.monthFirst? a b year).map fun date => Timestamp.mk date time) ≠
        (Date.monthFirst? b a year).map (fun date => Timestamp.mk date time) ↔
      (Date.ofYmd? year a b).isSome ∧ (Date.ofYmd? year b a).isSome ∧ a ≠ b := by
  have hinj : Function.Injective fun date => Timestamp.mk date time := fun _ _ h =>
    (Timestamp.mk.inj h).1
  rw [← Date.monthFirst?_ne_iff, Ne, Ne, Option.map_inj_right hinj]

/-- **Dates with slashes are read month first, else day first.** With a time of day and without one
the same day is taken, and exchanging the numbers changes it exactly if both readings are real days
and the numbers differ. -/
theorem ofText?_slashes (ha : a < 100) (hb : b < 100) (hyear : year < 10000) (time : Time) :
    ofText? (slashText a b year ++ clockBehind time) =
        (Date.monthFirst? a b year).map (fun date => { date, time := time.shownSecond }) ∧
      ofText? (slashText a b year) =
        (Date.monthFirst? a b year).map (fun date => { date, time := .midnight }) ∧
      (ofText? (slashText a b year ++ clockBehind time) ≠
          ofText? (slashText b a year ++ clockBehind time) ↔
        (Date.ofYmd? year a b).isSome ∧ (Date.ofYmd? year b a).isSome ∧ a ≠ b) ∧
      (ofText? (slashText a b year) ≠ ofText? (slashText b a year) ↔
        (Date.ofYmd? year a b).isSome ∧ (Date.ofYmd? year b a).isSome ∧ a ≠ b) := by
  rw [ofText?_slashText_clock ha hb hyear, ofText?_slashText_clock hb ha hyear,
    ofText?_slashText ha hb hyear, ofText?_slashText hb ha hyear]
  exact ⟨rfl, rfl, map_monthFirst?_ne_iff, map_monthFirst?_ne_iff⟩

/-- No month has the number 29, so the leap day is read day first, and the other way round too. -/
theorem ofText?_slashes_leapDay :
    (29 < 100 ∧ 2 < 100 ∧ 2024 < 10000) ∧
      slashText 29 2 2024 ++ clockBehind (.leapSecond 0 (by decide)) =
        "29/02/2024 23:59:60".toList ∧
      (ofText? "29/02/2024 23:59:60".toList).map exact = some "2024-02-29 23:59:60" ∧
      (ofText? "29/02/2024".toList).map exact = some "2024-02-29 00:00:00" ∧
      ofText? "29/02/2024".toList = ofText? "02/29/2024".toList := by
  have htext : slashText 29 2 2024 ++ clockBehind (.leapSecond 0 (by decide)) =
      "29/02/2024 23:59:60".toList := by decide
  have hdate : slashText 29 2 2024 = "29/02/2024".toList := by decide
  have hother : slashText 2 29 2024 = "02/29/2024".toList := by decide
  obtain ⟨hclock, hbare, -, hswap⟩ := @ofText?_slashes 29 2 2024 (by decide) (by decide) (by decide)
    (.leapSecond 0 (by decide))
  rw [htext] at hclock
  rw [hdate] at hbare
  rw [hdate, hother] at hswap
  refine ⟨by decide, htext, ?_, ?_, ?_⟩
  · rw [hclock]
    decide
  · rw [hbare]
    decide
  · exact Decidable.not_not.1 fun h => absurd (hswap.1 h).1 (by decide)

end Timestamp

end LogDigest
