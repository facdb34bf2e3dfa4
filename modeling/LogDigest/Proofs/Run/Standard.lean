import LogDigest.Proofs.Run.Twins
import LogDigest.Proofs.Selection

/-!
# The standard parts

The standard parts look at no identity. No criterion can be about it (`FieldKind.identity` is
refused), so whether a record is kept depends on its entry; an identity only comes up in the error
about an unknown level. Files in memory answer alike if their inputs and refusals are the same.
-/

namespace LogDigest

variable {d : UInt64}

/-! ## Errors about filter texts -/

theorem Criterion.shift_of_readValue {criterion value : List Char} {field : Field} {e : FilterError}
    (h : readValue criterion field value = .error e) : e.shift d = e := by
  unfold readValue at h
  split at h
  · cases h
  · split at h <;> cases h
    rfl
  · split at h <;> cases h
    rfl
  · cases h
    rfl

theorem Criterion.shift_of_ofText {text : List Char} {e : FilterError}
    (h : ofText text = .error e) : e.shift d = e := by
  unfold ofText at h
  split at h
  · dsimp only at h
    split at h
    · cases h
      rfl
    · split at h
      · cases h
        rfl
      · exact shift_of_readValue h
  · cases h
    rfl

namespace CompiledFilter

theorem shift_of_readAll {texts : List (List Char)} {e : FilterError}
    (h : readAll texts = .error e) : e.shift d = e := by
  induction texts with
  | nil => cases h
  | cons t ts ih =>
    rw [readAll] at h
    split at h
    · rename_i e' he
      cases h
      exact Criterion.shift_of_ofText he
    · cases hts : readAll ts with
      | ok cs => rw [hts] at h; cases h
      | error e' =>
        rw [hts] at h
        cases h
        exact ih hts

theorem shift_of_readGroups {groups : List (List (List Char))} {e : FilterError}
    (h : readGroups groups = .error e) : e.shift d = e := by
  induction groups with
  | nil => cases h
  | cons g gs ih =>
    rw [readGroups] at h
    split at h
    · rename_i e' he
      cases h
      exact shift_of_readAll he
    · cases hgs : readGroups gs with
      | ok cs => rw [hgs] at h; cases h
      | error e' =>
        rw [hgs] at h
        cases h
        exact ih hgs

/-- Errors about a filter text name no identity. -/
theorem shift_of_ofText {connectives : Connectives} {text : String} {e : FilterError}
    (h : ofText connectives text = .error e) : e.shift d = e := by
  rw [ofText] at h
  cases hgroups : readGroups (criterionGroups connectives text.toList) with
  | ok groups => rw [hgroups] at h; cases h
  | error e' =>
    rw [hgroups] at h
    cases h
    exact shift_of_readGroups hgroups

end CompiledFilter

/-! ## Selecting -/

theorem Record.toEntry_shift (r : Record) : (r.shift d).toEntry = r.toEntry := rfl

theorem Threshold.firstRefused?_shift (t : Threshold) (records : List Record) :
    t.firstRefused? (records.map (·.shift d)) = (t.firstRefused? records).map (·.shift d) := by
  rw [firstRefused?, firstRefused?]
  cases t.policy with
  | tolerant => rfl
  | strict =>
    dsimp only
    simp only [List.find?_map, Function.comp_def, Record.toEntry_shift]

theorem FilterSettings.apply_shift (s : FilterSettings) (records : List Record) :
    s.apply (records.map (·.shift d)) =
      ((s.apply records).mapError (·.shift d)).map (·.map (·.shift d)) := by
  rw [apply_eq_chosen, apply_eq_chosen, chosen, chosen]
  cases hfilter : CompiledFilter.ofText s.connectives s.criteria with
  | error e => exact congrArg Except.error (CompiledFilter.shift_of_ofText hfilter).symm
  | ok f =>
    simp only [Threshold.firstRefused?_shift, List.filter_map, Function.comp_def,
      Threshold.isReached, Record.toEntry_shift]
    cases s.threshold.firstRefused? records <;> rfl

/-! ## Summing up -/

theorem Summary.ofRecords_shift (records : List Record) :
    ofRecords (records.map (·.shift d)) = ofRecords records := by
  rw [ofRecords, List.foldl_map]
  rfl

/-! ## Files in memory -/

theorem Aligned.of_subset {records kept : List Record} (h : Aligned d records)
    (hsub : kept ⊆ records) : Aligned d kept :=
  fun r hr s hs => h r (hsub hr) s (hsub hs)

namespace Stages

/-- The standard parts over files in memory, at a fixed time, where the units of work share the
workers in some way. -/
def scheduled (now : Timestamp) (schedule : Nat → List Record → Schedule) : Stages Memory :=
  { inMemory now with schedule }

/-- The standard parts over files in memory look at no identity. -/
theorem blind_inMemory (now : Timestamp) (d : UInt64) : (inMemory now).Blind d where
  parser := nofun
  select settings records := by
    have happly := settings.apply_shift (d := d) records
    simp only [inMemory, Call.quiet, Call.map, happly]
    cases settings.apply records <;> rfl
  aligned settings records kept h haligned := by
    have happly : settings.apply records = .ok kept := by
      simp only [inMemory] at h
      cases hkept : settings.apply records with
      | error e => rw [hkept] at h; cases h
      | ok kept' => rw [hkept] at h; cases h; rfl
    exact haligned.of_subset (FilterSettings.sublist_of_apply happly).subset
  processor r := rfl
  schedule _ _ := rfl
  aggregate records := by simp only [inMemory, Call.quiet, Summary.ofRecords_shift]

end Stages

/-- The same can be read, and writing is refused for the same paths. -/
def Memory.AnswersAs (m m' : Memory) : Prop := m'.inputs = m.inputs ∧ m'.refusals = m.refusals

theorem Stages.respects_inMemory (now : Timestamp) (d : UInt64) :
    (inMemory now).Respects d Memory.AnswersAs where
  read {m m'} path h := by
    simp only [inMemory, Memory.read, h.1]
  write {m m' path bytes bytes'} h _ := by
    simp only [inMemory, Memory.write, h.2]
    by_cases hrefused : (m.refusals.any fun p => p.same path) = true
    · rw [if_pos hrefused, if_pos hrefused]
      exact ⟨rfl, h⟩
    · rw [if_neg hrefused, if_neg hrefused]
      exact ⟨rfl, h.1, rfl⟩
  log _ _ h := h

/-! ## A log and a request -/

@[irreducible] def oneLine : Memory where
  inputs := [(⟨"app.log"⟩, Utf8.encode "2024-01-15 10:30:00 Info up again\n".toList)]

/-- A run that exports what it keeps. -/
@[irreducible] def exporting : Request where
  source := ⟨"app.log"⟩
  choices := ((({} : Choices).set .logLevel "Info").set .outputPath "report.txt").set
    .exportPath "records.csv"

end LogDigest
