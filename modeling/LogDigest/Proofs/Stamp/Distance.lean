import LogDigest.Proofs.Counting
import LogDigest.Proofs.Stamp.Instants

/-!
# Timestamps are an exact distance apart

The span between two timestamps is never too long, is the same both ways and never negative. Without
leap seconds it adds up over a timestamp in between, and only equal timestamps have none
(`Entry.spanBetween_is_exact`).

**Spans** (`Span.exists_add?`). Seconds and nanoseconds with a carry between them are one number of
nanoseconds. A sum is that of the numbers, and it is refused only if that is too long, which the
calendar is far from (`Timestamp.exists_since?`).

**Leap seconds.** The correction for a leap second looks at the times of day only, and it changes
sign with them, so the difference is the same both ways (`Timestamp.minus_swap`). Without leap
seconds there is no correction, and a timestamp is one number (`Timestamp.nanoNumber`), of which the
difference is the difference (`Timestamp.minus_eq`), and by which timestamps are ordered
(`Timestamp.le_iff_nanoNumber`). Then a distance is one between numbers.
-/

namespace LogDigest

-- The order of lists here is that of the core library, whatever is imported beside this module.
attribute [local instance (high)] List.instLT

/-! ## Spans -/

namespace Span

variable {s t : Span}

/-- A span is known from its nanoseconds. -/
theorem total_inj : s.total = t.total ↔ s = t := by
  constructor
  · intro h
    have hs := s.nanos_lt
    have ht := t.nanos_lt
    unfold total at h
    have hseconds : s.seconds = t.seconds := by omega
    have hnanos : s.nanos = t.nanos := by omega
    cases s
    cases t
    cases hseconds
    cases hnanos
    rfl
  · rintro rfl
    rfl

theorem exists_ofParts? {seconds : Int} {nanos : Nat} (hnanos : nanos < 1000000000)
    (h : (seconds * 1000000000 + nanos).natAbs ≤ longestSpan) :
    ∃ s, ofParts? seconds nanos = some s ∧ s.total = seconds * 1000000000 + nanos :=
  ⟨_, dif_pos ⟨hnanos, h⟩, rfl⟩

theorem exists_ofDays? {days : Int} (h : (days * 86400000000000).natAbs ≤ longestSpan) :
    ∃ s, ofDays? days = some s ∧ s.total = days * 86400000000000 := by
  obtain ⟨s, hs, htotal⟩ := @exists_ofParts? (days * 86400) 0 (by decide) (by omega)
  exact ⟨s, hs, by omega⟩

theorem exists_ofNanos? {n : Int} (h : n.natAbs ≤ longestSpan) :
    ∃ s, ofNanos? n = some s ∧ s.total = n := by
  obtain ⟨s, hs, htotal⟩ :=
    @exists_ofParts? (n / 1000000000) (n % 1000000000).toNat (by omega) (by omega)
  exact ⟨s, hs, by omega⟩

/-- **A sum of spans is the sum of their nanoseconds**, unless that is too long. -/
theorem exists_add? (h : (s.total + t.total).natAbs ≤ longestSpan) :
    ∃ r, s.add? t = some r ∧ r.total = s.total + t.total := by
  have hs := s.nanos_lt
  have ht := t.nanos_lt
  unfold total at h ⊢
  unfold add?
  by_cases hcarry : s.nanos + t.nanos < 1000000000
  · rw [if_pos hcarry]
    obtain ⟨r, hr, htotal⟩ := @exists_ofParts? (s.seconds + t.seconds) _ hcarry (by omega)
    unfold total at htotal
    exact ⟨r, hr, by omega⟩
  · rw [if_neg hcarry]
    obtain ⟨r, hr, htotal⟩ := @exists_ofParts? (s.seconds + t.seconds + 1)
      (s.nanos + t.nanos - 1000000000) (by omega) (by omega)
    unfold total at htotal
    exact ⟨r, hr, by omega⟩

theorem total_neg (s : Span) : s.neg.total = -s.total := by
  have hs := s.nanos_lt
  unfold total neg
  by_cases hzero : s.nanos = 0
  · simp only [hzero, if_true]
    omega
  · simp only [hzero, if_false]
    omega

theorem total_abs (s : Span) : s.abs.total = s.total.natAbs := by
  have hs := s.nanos_lt
  unfold abs
  by_cases hback : s.seconds < 0
  · rw [if_pos hback, total_neg]
    unfold total
    omega
  · rw [if_neg hback]
    unfold total
    omega

theorem seconds_nonneg_iff : 0 ≤ s.seconds ↔ 0 ≤ s.total := by
  have hs := s.nanos_lt
  unfold total
  omega

end Span

/-! ## The calendar is short -/

theorem Date.natAbs_dayNumber_lt (d : Date) : d.dayNumber.natAbs < 100000000 := by
  have hyear := d.year_mem
  have hday := d.daysBeforeMonth_add_day_le
  have hmonths : daysBeforeMonth d.year (d.month + 1) ≤ daysBeforeMonth d.year 13 :=
    daysBeforeMonth_monotone _ (Nat.succ_le_succ d.month_mem.2)
  have hnext := daysBeforeYear_add_one d.year
  rw [dayNumber_eq]
  unfold daysBeforeYear at hnext ⊢
  omega

theorem Time.natAbs_minus_lt (t u : Time) : (t.minus u).natAbs < 100000000000000 := by
  have ht := t.secondOfDay_lt
  have hu := u.secondOfDay_lt
  have htn := t.nanosBeyond_lt
  have hun := u.nanosBeyond_lt
  unfold minus
  dsimp only
  split_ifs <;> omega

namespace Timestamp

variable {t u v : Timestamp}

theorem natAbs_minus_le (t u : Timestamp) : (t.minus u).natAbs ≤ longestSpan := by
  have ht := t.date.natAbs_dayNumber_lt
  have hu := u.date.natAbs_dayNumber_lt
  have hclock := t.time.natAbs_minus_lt u.time
  unfold minus longestSpan
  omega

/-- **No difference of timestamps is too long.** -/
theorem exists_since? (t u : Timestamp) : ∃ s, t.since? u = some s ∧ s.total = t.minus u := by
  have ht := t.date.natAbs_dayNumber_lt
  have hu := u.date.natAbs_dayNumber_lt
  have hclock := t.time.natAbs_minus_lt u.time
  have hsum := t.natAbs_minus_le u
  obtain ⟨days, hdays, hdaysTotal⟩ :=
    @Span.exists_ofDays? (t.date.dayNumber - u.date.dayNumber) (by unfold longestSpan; omega)
  obtain ⟨clock, hclockSpan, hclockTotal⟩ :=
    @Span.exists_ofNanos? (t.time.minus u.time) (by unfold longestSpan; omega)
  unfold minus at hsum ⊢
  rw [← hdaysTotal, ← hclockTotal] at hsum ⊢
  obtain ⟨s, hs, htotal⟩ := Span.exists_add? hsum
  refine ⟨s, ?_, htotal⟩
  simp only [since?, hdays, hclockSpan, bind, Option.bind, hs]

theorem exists_apart? (t u : Timestamp) :
    ∃ s, t.apart? u = some s ∧ s.total = (t.distance u : Int) := by
  obtain ⟨s, hs, htotal⟩ := t.exists_since? u
  refine ⟨s.abs, ?_, ?_⟩
  · rw [apart?, hs, Option.map_some]
  · rw [Span.total_abs, htotal, distance]

/-! ## Both ways -/

end Timestamp

/-- The correction for a leap second changes sign with the times of day. -/
theorem Time.minus_swap (t u : Time) : u.minus t = -(t.minus u) := by
  unfold minus
  dsimp only
  split_ifs <;> omega

namespace Timestamp

variable {t u v : Timestamp}

theorem minus_swap (t u : Timestamp) : u.minus t = -(t.minus u) := by
  have hclock := t.time.minus_swap u.time
  unfold minus
  omega

theorem distance_comm (t u : Timestamp) : t.distance u = u.distance t := by
  unfold distance
  rw [minus_swap, Int.natAbs_neg]

theorem apart?_comm (t u : Timestamp) : t.apart? u = u.apart? t := by
  obtain ⟨s, hs, hstotal⟩ := t.exists_apart? u
  obtain ⟨r, hr, hrtotal⟩ := u.exists_apart? t
  rw [hs, hr, Option.some.injEq, ← Span.total_inj, hstotal, hrtotal, distance_comm]

theorem distance_self (t : Timestamp) : t.distance t = 0 := by
  have hswap := t.minus_swap t
  unfold distance
  omega

/-! ## Without leap seconds -/

/-- The timestamp lies in a leap second. -/
def IsLeap (t : Timestamp) : Prop := t.time.IsLeap

instance (t : Timestamp) : Decidable t.IsLeap := inferInstanceAs (Decidable t.time.IsLeap)

/-- The number of the nanosecond of a timestamp, if all minutes have sixty seconds. -/
def nanoNumber (t : Timestamp) : Int := t.secondNumber * 1000000000 + t.time.nanosBeyond

theorem minus_eq (ht : ¬ t.IsLeap) (hu : ¬ u.IsLeap) : t.minus u = t.nanoNumber - u.nanoNumber := by
  unfold IsLeap at ht hu
  unfold minus Time.minus nanoNumber secondNumber
  simp only [ht, hu, and_false, if_false]
  omega

theorem lt_iff_nanoNumber (ht : ¬ t.IsLeap) (hu : ¬ u.IsLeap) :
    t < u ↔ t.nanoNumber < u.nanoNumber := by
  unfold IsLeap Time.IsLeap at ht hu
  rw [lt_iff_instant]
  unfold instant nanoNumber
  simp only [List.cons_lt_cons_iff, List.not_lt_nil, and_false, or_false]
  omega

/-- Without leap seconds timestamps are ordered by their nanoseconds. -/
theorem le_iff_nanoNumber (ht : ¬ t.IsLeap) (hu : ¬ u.IsLeap) :
    t ≤ u ↔ t.nanoNumber ≤ u.nanoNumber := by
  have hlt := lt_iff_nanoNumber hu ht
  show ¬ u < t ↔ _
  rw [hlt, Int.not_lt]

theorem distance_eq (ht : ¬ t.IsLeap) (hu : ¬ u.IsLeap) :
    t.distance u = (t.nanoNumber - u.nanoNumber).natAbs := by
  rw [distance, minus_eq ht hu]

/-- Without leap seconds only equal timestamps have no distance. -/
theorem distance_eq_zero_iff (ht : ¬ t.IsLeap) (hu : ¬ u.IsLeap) : t.distance u = 0 ↔ t = u := by
  constructor
  · intro h
    rw [distance_eq ht hu] at h
    have htu : t ≤ u := (le_iff_nanoNumber ht hu).2 (by omega)
    have hut : u ≤ t := (le_iff_nanoNumber hu ht).2 (by omega)
    exact Timestamp.le_antisymm htu hut
  · rintro rfl
    exact distance_self t

/-- **Distances add up** over a timestamp in between, without leap seconds. -/
theorem distance_add (ht : ¬ t.IsLeap) (hu : ¬ u.IsLeap) (hv : ¬ v.IsLeap) (htu : t ≤ u)
    (huv : u ≤ v) : t.distance v = t.distance u + u.distance v := by
  rw [le_iff_nanoNumber ht hu] at htu
  rw [le_iff_nanoNumber hu hv] at huv
  rw [distance_eq ht hv, distance_eq ht hu, distance_eq hu hv]
  omega

/-- The spans to and from a timestamp in between add up as spans. -/
theorem exists_apart?_add (ht : ¬ t.IsLeap) (hu : ¬ u.IsLeap) (hv : ¬ v.IsLeap) (htu : t ≤ u)
    (huv : u ≤ v) :
    ∃ before behind whole, t.apart? u = some before ∧ u.apart? v = some behind ∧
      t.apart? v = some whole ∧ before.add? behind = some whole := by
  obtain ⟨before, hbefore, hbeforeTotal⟩ := t.exists_apart? u
  obtain ⟨behind, hbehind, hbehindTotal⟩ := u.exists_apart? v
  obtain ⟨whole, hwhole, hwholeTotal⟩ := t.exists_apart? v
  refine ⟨before, behind, whole, hbefore, hbehind, hwhole, ?_⟩
  have hsum : whole.total = before.total + behind.total := by
    rw [hwholeTotal, hbeforeTotal, hbehindTotal, distance_add ht hu hv htu huv]
    omega
  -- The sum of the spans is no longer than the span that is there.
  have hshort : (before.total + behind.total).natAbs ≤ longestSpan := by
    rw [← hsum]
    exact whole.le_longest
  obtain ⟨sum, hadd, hsumTotal⟩ := Span.exists_add? hshort
  rw [hadd, Option.some.injEq, ← Span.total_inj, hsumTotal, hsum]

end Timestamp

/-- Without leap seconds no two timestamps are further apart than the ends of their range. -/
theorem TimeRange.Spans.distance_le {range : TimeRange} {ts : List Timestamp} (h : range.Spans ts)
    (hleap : ∀ t ∈ ts, ¬ t.IsLeap) {t u : Timestamp} (ht : t ∈ ts) (hu : u ∈ ts) :
    t.distance u ≤ range.earliest.distance range.latest := by
  have hearliest := hleap _ h.earliest_mem
  have hlatest := hleap _ h.latest_mem
  have htNumber := hleap t ht
  have huNumber := hleap u hu
  have htLow := (Timestamp.le_iff_nanoNumber hearliest htNumber).1 (h.earliest_le t ht)
  have huLow := (Timestamp.le_iff_nanoNumber hearliest huNumber).1 (h.earliest_le u hu)
  have htHigh := (Timestamp.le_iff_nanoNumber htNumber hlatest).1 (h.le_latest t ht)
  have huHigh := (Timestamp.le_iff_nanoNumber huNumber hlatest).1 (h.le_latest u hu)
  rw [Timestamp.distance_eq htNumber huNumber, Timestamp.distance_eq hearliest hlatest]
  omega

/-- The summary of records without leap seconds has a range, and no two of the records are further
apart than its ends. -/
theorem Summary.exists_distance_le {records : List Record}
    (hleap : ∀ r ∈ records, ¬ r.timestamp.IsLeap) {r s : Record} (hr : r ∈ records)
    (hs : s ∈ records) :
    ∃ range, (ofRecords records).range = some range ∧
      r.timestamp.distance s.timestamp ≤ range.earliest.distance range.latest := by
  have hsummary := summarizes_ofRecords records
  cases hrange : (ofRecords records).range with
  | none =>
    rw [hsummary.range_none.1 hrange] at hr
    cases hr
  | some range =>
    have hleaps : ∀ t ∈ records.map (·.timestamp), ¬ t.IsLeap := by
      intro t ht
      obtain ⟨q, hq, rfl⟩ := List.mem_map.1 ht
      exact hleap q hq
    exact ⟨range, rfl, (hsummary.range range hrange).distance_le hleaps (List.mem_map_of_mem hr)
      (List.mem_map_of_mem hs)⟩

/-! ## Records -/

/-- **The span between records is exact.** It is never too long, the same both ways and not
negative, and none if the timestamps are equal. Without leap seconds it is none only then, the spans
to and from a timestamp in between add up to it, and no two records are further apart than the ends
of the range in their summary. -/
theorem Entry.spanBetween_is_exact :
    (∀ e f : Entry, ∃ s, e.spanBetween? f = some s ∧ f.spanBetween? e = some s ∧ 0 ≤ s.seconds ∧
      s.total = e.timeBetween f ∧ (e.timestamp = f.timestamp → s.total = 0)) ∧
    (∀ e f g : Entry, ¬ e.timestamp.IsLeap → ¬ f.timestamp.IsLeap → ¬ g.timestamp.IsLeap →
      e.timestamp ≤ f.timestamp → f.timestamp ≤ g.timestamp →
      ∃ before behind whole, e.spanBetween? f = some before ∧ f.spanBetween? g = some behind ∧
        e.spanBetween? g = some whole ∧ before.add? behind = some whole) ∧
    (∀ e f : Entry, ¬ e.timestamp.IsLeap → ¬ f.timestamp.IsLeap → ∀ s,
      e.spanBetween? f = some s → s.total = 0 → e.timestamp = f.timestamp) ∧
    ∀ records : List Record, (∀ r ∈ records, ¬ r.timestamp.IsLeap) →
      ∀ r ∈ records, ∀ s ∈ records, ∃ range whole span,
        (Summary.ofRecords records).range = some range ∧
          range.latest.apart? range.earliest = some whole ∧
          r.spanBetween? s.toEntry = some span ∧ span.total ≤ whole.total := by
  refine ⟨fun e f => ?_, fun e f g he hf hg hef hfg => Timestamp.exists_apart?_add he hf hg hef hfg,
    fun e f he hf s hs hzero => ?_, fun records hleap r hr s hs => ?_⟩
  · obtain ⟨s, hs, htotal⟩ := e.timestamp.exists_apart? f.timestamp
    have hback : f.spanBetween? e = some s := by
      rw [spanBetween?, Timestamp.apart?_comm, hs]
    refine ⟨s, hs, hback, Span.seconds_nonneg_iff.2 ?_, htotal, fun hequal => ?_⟩
    · omega
    · rw [htotal, hequal, Timestamp.distance_self]
      rfl
  · obtain ⟨span, hspan, htotal⟩ := e.timestamp.exists_apart? f.timestamp
    rw [spanBetween?, hspan, Option.some.injEq] at hs
    subst hs
    apply (Timestamp.distance_eq_zero_iff he hf).1
    omega
  · obtain ⟨range, hrange, hle⟩ := Summary.exists_distance_le hleap hr hs
    obtain ⟨whole, hwhole, hwholeTotal⟩ := range.latest.exists_apart? range.earliest
    obtain ⟨span, hspan, hspanTotal⟩ := r.timestamp.exists_apart? s.timestamp
    refine ⟨range, whole, span, hrange, hwhole, hspan, ?_⟩
    rw [hspanTotal, hwholeTotal, range.latest.distance_comm]
    omega

/-- The first and the last moment of the calendar, with the last leap second and a moment in
between. -/
theorem Entry.spanBetween_is_exact_ends :
    let first : Timestamp :=
      { date := { year := -262143, month := 1, day := 1, year_mem := by decide,
                  month_mem := by decide, day_mem := by decide }
        time := .midnight }
    let last : Timestamp :=
      { date := { year := 262142, month := 12, day := 31, year_mem := by decide,
                  month_mem := by decide, day_mem := by decide }
        time := { secondOfDay := 86399, nanosBeyond := 999999999, secondOfDay_lt := by decide,
                  nanosBeyond_lt := by decide } }
    let leap : Timestamp :=
      { last with
        time := { last.time with nanosBeyond := 1999999999, nanosBeyond_lt := by decide } }
    let between : Timestamp :=
      { date := { year := 2024, month := 2, day := 29, year_mem := by decide,
                  month_mem := by decide, day_mem := by decide }
        time := last.time }
    let entry (t : Timestamp) : Entry := { timestamp := t, level := "Info" }
    let r : Record := { entry last with id := ⟨1⟩ }
    let s : Record := { entry between with id := ⟨2⟩ }
    leap.IsLeap ∧ leap.distance first = 16544868105600999999999 ∧
      (∃ s, (entry leap).spanBetween? (entry first) = some s ∧ 0 ≤ s.seconds) ∧
      (∃ before behind whole, (entry first).spanBetween? (entry between) = some before ∧
        (entry between).spanBetween? (entry last) = some behind ∧
        (entry first).spanBetween? (entry last) = some whole ∧
        before.add? behind = some whole) ∧
      (∀ span, (entry first).spanBetween? (entry last) = some span → span.total ≠ 0) ∧
      ∃ range whole span, (Summary.ofRecords [r, s]).range = some range ∧
        range.latest.apart? range.earliest = some whole ∧
        r.spanBetween? s.toEntry = some span ∧ span.total ≤ whole.total := by
  intro first last leap between entry r s
  have hfirst : ¬ first.IsLeap := by decide
  have hlast : ¬ last.IsLeap := by decide
  have hbetween : ¬ between.IsLeap := by decide
  obtain ⟨hexact, hadd, hzero, hrange⟩ := Entry.spanBetween_is_exact
  obtain ⟨span, hspan, -, hseconds, -⟩ := hexact (entry leap) (entry first)
  have hleaps : ∀ q ∈ [r, s], ¬ q.timestamp.IsLeap := by
    intro q hq
    rcases List.mem_pair.1 hq with rfl | rfl
    · exact hlast
    · exact hbetween
  have hapart : first ≠ last := by decide
  have hr : r ∈ [r, s] := List.mem_cons_self
  have hs : s ∈ [r, s] := List.mem_cons_of_mem r List.mem_cons_self
  refine ⟨by decide, by decide, ⟨span, hspan, hseconds⟩, ?_, fun whole hwhole htotal => ?_,
    hrange [r, s] hleaps r hr s hs⟩
  · exact hadd (entry first) (entry between) (entry last) hfirst hbetween hlast (by decide)
      (by decide)
  · exact hapart (hzero (entry first) (entry last) hfirst hlast whole hwhole htotal)

end LogDigest
