import LogDigest.Proofs.Selection

/-!
# Selections are exact

`FilterSettings.ComesTo` says what a selection has to come to, without going through the records:
a filter text that does not compile is the error before all others, then the first record with an
unknown level under the strict policy, and otherwise the wanted records are kept, in their order and
as often as they were there. A selection comes to this and to nothing else
(`FilterSettings.apply_selects_exactly`).

**Twice and in steps.** A record is wanted for what it says itself, so keeping the wanted ones again
changes nothing. Severities are ordered, so a record that reaches the higher of two minima reaches
the lower one too, and selecting with both, one after the other, is selecting with the higher one.
-/

namespace LogDigest

open Text

/-! ## Levels -/

namespace Severity

/-- A level names a severity, without regard to letter case and surrounding blanks. -/
def IsNamedBy (s : Severity) (level : String) : Prop :=
  sameLetters s.label (String.ofList (trim level.toList)) = true

instance (s : Severity) (level : String) : Decidable (s.IsNamedBy level) :=
  inferInstanceAs (Decidable (sameLetters s.label (String.ofList (trim level.toList)) = true))

theorem le_trans {s t u : Severity} (h : s ≤ t) (h' : t ≤ u) : s ≤ u :=
  Nat.le_trans h h'

/-- No two severities have names that differ in letter case only. -/
theorem lower_label_inj {s t : Severity} (h : lower s.label = lower t.label) : s = t := by
  revert h
  cases s <;> cases t <;> decide +kernel

theorem IsNamedBy.unique {s t : Severity} {level : String} (hs : s.IsNamedBy level)
    (ht : t.IsNamedBy level) : s = t := by
  rw [IsNamedBy, sameLetters, beq_iff_eq] at hs ht
  exact lower_label_inj (hs.trans ht.symm)

theorem ofLevel?_eq_some_iff {s : Severity} {level : String} :
    ofLevel? level = some s ↔ s.IsNamedBy level := by
  rw [ofLevel?]
  constructor
  · intro h
    have hnamed := List.find?_some h
    exact hnamed
  · intro h
    cases hfound : all.find? fun s => sameLetters s.label (String.ofList (trim level.toList)) with
    | none =>
      have hall : s ∈ all := by cases s <;> decide
      rw [IsNamedBy] at h
      exact absurd h (List.find?_eq_none.1 hfound s hall)
    | some t =>
      have hnamed := List.find?_some hfound
      rw [IsNamedBy.unique h hnamed]

end Severity

namespace Record

/-- The level of the record is a known severity. -/
def IsKnown (r : Record) : Prop := ∃ s : Severity, s.IsNamedBy r.level

/-- The level of the record is a known severity, and at least this one. -/
def Reaches (r : Record) (minimum : Severity) : Prop :=
  ∃ s : Severity, s.IsNamedBy r.level ∧ minimum ≤ s

variable {r : Record}

theorem severity?_eq_some_iff {s : Severity} : r.severity? = some s ↔ s.IsNamedBy r.level :=
  Severity.ofLevel?_eq_some_iff

theorem isSome_severity?_iff : r.severity?.isSome = true ↔ r.IsKnown := by
  simp only [Option.isSome_iff_exists, severity?_eq_some_iff, IsKnown]

theorem isNone_severity?_iff : r.severity?.isNone = true ↔ ¬ r.IsKnown := by
  rw [← isSome_severity?_iff, Bool.not_eq_true, Option.isSome_eq_false_iff]

theorem Reaches.of_le {lower higher : Severity} (hle : lower ≤ higher) (h : r.Reaches higher) :
    r.Reaches lower := by
  obtain ⟨s, hs, hhigher⟩ := h
  exact ⟨s, hs, Severity.le_trans hle hhigher⟩

end Record

theorem Threshold.isReached_iff {t : Threshold} {r : Record} :
    t.isReached r = true ↔ r.Reaches t.minimum := by
  simp only [isReached, Option.any_eq_true, Record.severity?_eq_some_iff, decide_eq_true_eq,
    Record.Reaches]

/-! ## Selections -/

namespace FilterSettings

/-- The settings with another least severity. -/
def withMinimum (s : FilterSettings) (minimum : Severity) : FilterSettings :=
  { s with threshold := { s.threshold with minimum } }

/-- The record reaches the least severity, and the compiled filter admits it. -/
def Wants (s : FilterSettings) (f : CompiledFilter) (r : Record) : Prop :=
  r.Reaches s.threshold.minimum ∧ f.admits r.toEntry = true

/-- What a selection has to come to. -/
inductive ComesTo (s : FilterSettings) (records : List Record) :
    Except FilterError (List Record) → Prop
  /-- The filter text does not compile, whatever the records are. -/
  | uncompiled {e : FilterError}
    (htext : CompiledFilter.ofText s.connectives s.criteria = .error e) :
    ComesTo s records (.error e)
  /-- The first record whose level is unknown is refused, whether it would be wanted or not. -/
  | refused {f : CompiledFilter} {before after : List Record} {r : Record}
    (htext : CompiledFilter.ofText s.connectives s.criteria = .ok f)
    (hpolicy : s.threshold.policy = .strict) (hrecords : records = before ++ r :: after)
    (hbefore : ∀ b ∈ before, b.IsKnown) (hr : ¬ r.IsKnown) :
    ComesTo s records (.error (.unknownLevel r.level r.id))
  /-- The wanted records are kept. -/
  | kept {f : CompiledFilter} {keep : Record → Bool}
    (htext : CompiledFilter.ofText s.connectives s.criteria = .ok f)
    (hlevels : s.threshold.policy = .strict → ∀ r ∈ records, r.IsKnown)
    (hkeep : ∀ r, keep r = true ↔ s.Wants f r) :
    ComesTo s records (.ok (records.filter keep))

variable {s : FilterSettings} {records kept : List Record}

/-- The records that a compiled filter leaves of those that reach the threshold. -/
def keeps (s : FilterSettings) (f : CompiledFilter) (r : Record) : Bool :=
  s.threshold.isReached r && f.admits r.toEntry

theorem keeps_iff {f : CompiledFilter} {r : Record} : s.keeps f r = true ↔ s.Wants f r := by
  rw [keeps, Bool.and_eq_true, Threshold.isReached_iff, Wants]

theorem firstRefused?_eq_some_iff {t : Threshold} {r : Record} :
    t.firstRefused? records = some r ↔ t.policy = .strict ∧ ¬ r.IsKnown ∧
      ∃ before after, records = before ++ r :: after ∧ ∀ b ∈ before, b.IsKnown := by
  rw [Threshold.firstRefused?]
  cases t.policy with
  | tolerant => simp
  | strict =>
    simp only [List.find?_eq_some_iff_append, Record.isNone_severity?_iff, true_and,
      Bool.not_eq_true', Option.isNone_eq_false_iff, Record.isSome_severity?_iff]

theorem firstRefused?_eq_none_iff {t : Threshold} :
    t.firstRefused? records = none ↔ (t.policy = .strict → ∀ r ∈ records, r.IsKnown) := by
  rw [Threshold.firstRefused?]
  cases t.policy with
  | tolerant => simp
  | strict =>
    simp only [List.find?_eq_none, Record.isNone_severity?_iff, not_not, true_imp_iff]

theorem ComesTo.apply_eq {x : Except FilterError (List Record)} (h : s.ComesTo records x) :
    s.apply records = x := by
  rw [apply_eq_chosen, chosen]
  cases h with
  | uncompiled htext => rw [htext]
  | refused htext hpolicy hrecords hbefore hr =>
    have hrefused := firstRefused?_eq_some_iff.2 ⟨hpolicy, hr, _, _, hrecords, hbefore⟩
    simp only [htext, hrefused]
  | @kept f keep htext hlevels hkeep =>
    have hkeeps : keep = s.keeps f := by
      funext r
      rw [Bool.eq_iff_iff, hkeep, keeps_iff]
    simp only [htext, firstRefused?_eq_none_iff.2 hlevels, hkeeps]
    rfl

theorem comesTo_apply (s : FilterSettings) (records : List Record) :
    s.ComesTo records (s.apply records) := by
  rw [apply_eq_chosen, chosen]
  cases htext : CompiledFilter.ofText s.connectives s.criteria with
  | error e => exact .uncompiled htext
  | ok f =>
    dsimp only
    cases hrefused : s.threshold.firstRefused? records with
    | some r =>
      obtain ⟨hpolicy, hr, before, after, hrecords, hbefore⟩ := firstRefused?_eq_some_iff.1 hrefused
      exact .refused htext hpolicy hrecords hbefore hr
    | none => exact .kept htext (firstRefused?_eq_none_iff.1 hrefused) fun _ => keeps_iff

theorem apply_eq_ok_iff : s.apply records = .ok kept ↔
    ∃ f, CompiledFilter.ofText s.connectives s.criteria = .ok f ∧
      (s.threshold.policy = .strict → ∀ r ∈ records, r.IsKnown) ∧
      kept = records.filter (s.keeps f) := by
  constructor
  · intro h
    have hcomes := s.comesTo_apply records
    rw [h] at hcomes
    cases hcomes with
    | @kept f keep htext hlevels hkeep =>
      refine ⟨f, htext, hlevels, List.filter_congr fun r _ => ?_⟩
      rw [Bool.eq_iff_iff, hkeep, keeps_iff]
  · rintro ⟨f, htext, hlevels, rfl⟩
    exact ComesTo.apply_eq (.kept htext hlevels fun _ => keeps_iff)

/-- Selecting again changes nothing. -/
theorem apply_of_apply (h : s.apply records = .ok kept) : s.apply kept = .ok kept := by
  obtain ⟨f, htext, hlevels, rfl⟩ := apply_eq_ok_iff.1 h
  refine apply_eq_ok_iff.2 ⟨f, htext, fun hpolicy r hr => ?_, ?_⟩
  · exact hlevels hpolicy r (List.mem_of_mem_filter hr)
  · rw [List.filter_filter, List.filter_congr fun r _ => Bool.and_self (s.keeps f r)]

section Raising

variable {minimum : Severity}

theorem keeps_of_keeps_withMinimum (hle : s.threshold.minimum ≤ minimum) {f : CompiledFilter}
    {r : Record} (h : (s.withMinimum minimum).keeps f r = true) : s.keeps f r = true := by
  obtain ⟨hreaches, hadmits⟩ := keeps_iff.1 h
  exact keeps_iff.2 ⟨hreaches.of_le hle, hadmits⟩

/-- A higher minimum keeps a part of what a lower one keeps, and selecting with both, in either
order, is selecting with the higher one. -/
theorem apply_withMinimum (hpolicy : s.threshold.policy = .tolerant)
    (hle : s.threshold.minimum ≤ minimum) (h : s.apply records = .ok kept) :
    ∃ fewer, (s.withMinimum minimum).apply records = .ok fewer ∧ fewer.Sublist kept ∧
      (s.withMinimum minimum).apply kept = .ok fewer ∧ s.apply fewer = .ok fewer := by
  obtain ⟨f, htext, -, rfl⟩ := apply_eq_ok_iff.1 h
  have htolerant : ∀ {p : Prop}, s.threshold.policy = .strict → p := fun hstrict => by
    rw [hpolicy] at hstrict
    cases hstrict
  have hboth : ∀ r, (s.keeps f r && (s.withMinimum minimum).keeps f r) =
      (s.withMinimum minimum).keeps f r := by
    intro r
    rw [Bool.and_eq_right_iff_imp]
    exact keeps_of_keeps_withMinimum hle
  have hsteps : (records.filter (s.keeps f)).filter ((s.withMinimum minimum).keeps f) =
      records.filter ((s.withMinimum minimum).keeps f) := by
    rw [List.filter_filter]
    exact List.filter_congr fun r _ => by rw [Bool.and_comm, hboth]
  refine ⟨records.filter ((s.withMinimum minimum).keeps f), ?_, ?_, ?_, ?_⟩
  · exact apply_eq_ok_iff.2 ⟨f, htext, htolerant, rfl⟩
  · rw [← hsteps]
    exact List.filter_sublist
  · exact apply_eq_ok_iff.2 ⟨f, htext, htolerant, hsteps.symm⟩
  · refine apply_eq_ok_iff.2 ⟨f, htext, htolerant, ?_⟩
    rw [List.filter_filter]
    exact List.filter_congr fun r _ => (hboth r).symm

end Raising

/-- **Selections are exact.** Whatever the settings and the records are, a selection comes to what
it has to and to nothing else: a filter text that does not compile, then the first unknown level
under the strict policy, and otherwise the wanted records in their order. Selecting again changes
nothing, and raising the minimum under the tolerant policy is selecting with both minima, one after
the other in either order. -/
theorem apply_selects_exactly :
    (∀ (s : FilterSettings) (records : List Record) (x : Except FilterError (List Record)),
      s.apply records = x ↔ s.ComesTo records x) ∧
    (∀ (s : FilterSettings) (records kept : List Record), s.apply records = .ok kept →
      s.apply kept = .ok kept) ∧
    ∀ (s : FilterSettings) (minimum : Severity) (records kept : List Record),
      s.threshold.policy = .tolerant → s.threshold.minimum ≤ minimum →
      s.apply records = .ok kept →
      ∃ fewer, (s.withMinimum minimum).apply records = .ok fewer ∧ fewer.Sublist kept ∧
        (s.withMinimum minimum).apply kept = .ok fewer ∧ s.apply fewer = .ok fewer := by
  refine ⟨fun s records x => ⟨?_, ComesTo.apply_eq⟩, fun s records kept => apply_of_apply,
    fun s minimum records kept => apply_withMinimum⟩
  rintro rfl
  exact s.comesTo_apply records

def recordOf (level : String) (id : UInt64) : Record where
  timestamp :=
    { date := { year := 2025, month := 9, day := 17, year_mem := by decide,
                month_mem := by decide, day_mem := by decide }
      time := .midnight }
  level
  id := ⟨id⟩

/-- An unknown level is refused although its record would not be wanted; where it is tolerated, the
other records are kept, and of these the error is what a higher minimum leaves. -/
theorem apply_selects_exactly_unknownLevel :
    let records := [recordOf "ERROR" 1, recordOf "loud" 2, recordOf " info" 3]
    let strict : FilterSettings :=
      { threshold := { minimum := .error, policy := .strict }, criteria := "Level=ERROR" }
    let tolerant : FilterSettings := { threshold := { minimum := .debug } }
    let kept := [recordOf "ERROR" 1, recordOf " info" 3]
    strict.apply records = .error (.unknownLevel "loud" ⟨2⟩) ∧
      tolerant.apply records = .ok kept ∧ tolerant.apply kept = .ok kept ∧
      ∃ fewer, (tolerant.withMinimum .error).apply records = .ok fewer ∧ fewer.Sublist kept ∧
        (tolerant.withMinimum .error).apply kept = .ok fewer ∧
        tolerant.apply fewer = .ok fewer := by
  intro records strict tolerant kept
  obtain ⟨hexact, hagain, hraise⟩ := apply_selects_exactly
  have htolerant : tolerant.apply records = .ok kept := by decide +kernel
  have hknown : (recordOf "ERROR" 1).IsKnown := ⟨.error, by decide +kernel⟩
  have hunknown : ¬ (recordOf "loud" 2).IsKnown := by
    rw [← Record.isNone_severity?_iff]
    decide +kernel
  have htext : CompiledFilter.ofText strict.connectives strict.criteria =
      .ok { groups := [[{ field := .level, value := .text "ERROR" }]] } := by
    decide +kernel
  refine ⟨(hexact strict records _).2 ?_, htolerant, hagain tolerant records kept htolerant,
    hraise tolerant .error records kept rfl (by decide) htolerant⟩
  have hsplit : records = [recordOf "ERROR" 1] ++ recordOf "loud" 2 :: [recordOf " info" 3] := rfl
  exact .refused htext rfl hsplit (by simpa using hknown) hunknown

end FilterSettings

end LogDigest
