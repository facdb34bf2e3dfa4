import LogDigest.Proofs.Run.Schedules

/-!
# Processing under every schedule

What is reported about the work on records, for every list of units, every schedule and every number
of workers.

**Cancelled** (`processUnits_result_of_looked_up`). If a unit saw the flag up, the result is the
number of units that ran, and it is too small.

**Otherwise the schedule leaves no mark** (`processUnits_result_of_looked_down`). Every unit ran.
The failures are read off in the order of the records and sorted by a stable sort, so the result is
a function of the units alone (`fullResult`).

A unit is a record with what the work on it does, so two units may have the same record and end
differently.
-/

namespace LogDigest

variable {units : List WorkUnit}

/-! ## Reports of failures -/

/-- Behind a schedule in which no unit was skipped, the failures are those of all units. -/
theorem unitFailures_of_forall_mem {finished : List Nat} (h : ∀ u < units.length, u ∈ finished) :
    unitFailures finished units = units.filterMap WorkUnit.failure? := by
  have hall : ∀ x ∈ units.zipIdx,
      (if finished.contains x.2 then x.1.failure? else none) = x.1.failure? := by
    intro x hx
    have := List.snd_lt_of_mem_zipIdx hx
    rw [if_pos (by simpa using h x.2 (by omega))]
  calc unitFailures finished units
      = units.zipIdx.filterMap (fun x => x.1.failure?) := List.filterMap_congr hall
    _ = (units.zipIdx.map Prod.fst).filterMap WorkUnit.failure? := by rw [List.filterMap_map]; rfl
    _ = units.filterMap WorkUnit.failure? := by rw [List.zipIdx_map_fst]

theorem UnitFailure.mayPrecede_trans (f g h : UnitFailure) (hfg : f.mayPrecede g = true)
    (hgh : g.mayPrecede h = true) : f.mayPrecede h = true := by
  simp only [mayPrecede, decide_eq_true_eq] at *
  exact UInt64.le_trans hfg hgh

theorem UnitFailure.mayPrecede_total (f g : UnitFailure) :
    (f.mayPrecede g || g.mayPrecede f) = true := by
  simpa [mayPrecede] using UInt64.le_total f.record.value g.record.value

theorem sortFailures_perm (failures : List UnitFailure) :
    (sortFailures failures).Perm failures := List.mergeSort_perm ..

theorem sortFailures_pairwise (failures : List UnitFailure) :
    (sortFailures failures).Pairwise fun f g => f.record.value ≤ g.record.value := by
  have h := List.pairwise_mergeSort UnitFailure.mayPrecede_trans UnitFailure.mayPrecede_total
    failures
  exact h.imp fun hfg => by simpa [UnitFailure.mayPrecede] using hfg

/-- Failures of one record stay in their order: they are as good as sorted, so the stable sort keeps
them as a sublist, and there are as many of them before as after. -/
theorem filter_sortFailures (failures : List UnitFailure) (id : RecordId) :
    (sortFailures failures).filter (·.record = id) = failures.filter (·.record = id) := by
  have hsorted : (failures.filter (·.record = id)).Pairwise (·.mayPrecede ·) := by
    refine List.pairwise_of_forall_mem_list fun f hf g hg => ?_
    simp only [List.mem_filter, decide_eq_true_eq] at hf hg
    simp [UnitFailure.mayPrecede, hf.2, hg.2]
  have hsub := (List.sublist_mergeSort UnitFailure.mayPrecede_trans UnitFailure.mayPrecede_total
    hsorted List.filter_sublist).filter (·.record = id)
  rw [List.filter_filter] at hsub
  simp only [Bool.and_self] at hsub
  exact (hsub.eq_of_length ((sortFailures_perm failures).filter _).length_eq.symm).symm

/-- The entry that should be in the report of failures for a unit, if it fails. -/
def WorkUnit.entry? (w : WorkUnit) : Option UnitFailure :=
  match w.call.result with
  | .done => none
  | .refused reason => some { record := w.record.id, reason }
  | .panicked (some message) =>
    some { record := w.record.id, reason := "panicked: " ++ message }
  | .panicked none =>
    some { record := w.record.id, reason := "panicked: unknown panic payload" }

theorem WorkUnit.failure?_eq_entry? (w : WorkUnit) : w.failure? = w.entry? := by
  rcases w with ⟨record, result, cancels, events⟩
  rcases result with _ | reason | _ | message <;> rfl

/-- One entry for every unit that failed and none for any other, in the order of the identities, and
for one identity in the order of the records. -/
structure ReportsFailures (units : List WorkUnit) (failures : List UnitFailure) : Prop where
  entries : failures.Perm (units.filterMap WorkUnit.entry?)
  sorted : failures.Pairwise fun f g => f.record.value ≤ g.record.value
  stable : ∀ id : RecordId, failures.filter (·.record = id) =
    (units.filterMap WorkUnit.entry?).filter (·.record = id)

theorem reportsFailures_sortFailures (units : List WorkUnit) :
    ReportsFailures units (sortFailures (units.filterMap WorkUnit.entry?)) :=
  ⟨sortFailures_perm _, sortFailures_pairwise _, filter_sortFailures _⟩

/-! ## Results -/

/-- The result of work in which no unit was skipped. -/
def fullResult (units : List WorkUnit) : Except ProcessError Nat :=
  if units.filterMap WorkUnit.entry? = [] then .ok units.length
  else .error (.unitFailures (sortFailures (units.filterMap WorkUnit.entry?)))

variable (units) (schedule : Schedule) (flag : Bool)

/-- What happens in a schedule of units, from its first step until every unit is settled. -/
def workHistory : List PoolEvent := Pool.history (units.map (·.call)) schedule flag

/-- If a unit sees the flag up, the result is how many units ran. -/
theorem processUnits_result_of_looked_up
    (h : ∃ u, .looked u true ∈ workHistory units schedule flag) :
    let ran := (workHistory units schedule flag).filterMap PoolEvent.runner?
    ran.length < units.length ∧
      (processUnits schedule flag units).result =
        .error (.cancelled ran.length units.length) := by
  have hlt := (Pool.length_ran_lt_iff _ schedule flag).2 h
  rw [List.length_map] at hlt
  refine ⟨hlt, ?_⟩
  rw [workHistory, ← (Pool.run_follows _ schedule flag).finished] at *
  simp only [processUnits, hlt, if_true]

/-- If no unit sees the flag up, the schedule is not seen in the result. -/
theorem processUnits_result_of_looked_down
    (h : ∀ u, .looked u true ∉ workHistory units schedule flag) :
    (processUnits schedule flag units).result = fullResult units := by
  have hlt := mt (Pool.length_ran_lt_iff _ schedule flag).1 (not_exists.2 h)
  have hpartition := Pool.run_partition (units.map (·.call)) schedule flag
  rw [← (Pool.run_follows _ schedule flag).finished] at hlt
  rw [List.length_map] at hlt hpartition
  set pool := Pool.run (units.map (·.call)) schedule flag with hpool
  have hlength := hpartition.length_eq
  rw [List.length_append, List.length_range] at hlength
  have hskipped : pool.skipped = [] := List.length_eq_zero_iff.1 (by omega)
  rw [hskipped, List.nil_append] at hpartition
  have hfailures : unitFailures pool.finished units = units.filterMap WorkUnit.entry? := by
    rw [unitFailures_of_forall_mem fun u hu => hpartition.mem_iff.2 (List.mem_range.2 hu)]
    exact List.filterMap_congr fun w _ => w.failure?_eq_entry?
  have hempty : (sortFailures (units.filterMap WorkUnit.entry?)).isEmpty =
      (units.filterMap WorkUnit.entry?).isEmpty := by
    rw [Bool.eq_iff_iff, List.isEmpty_iff_length_eq_zero, List.isEmpty_iff_length_eq_zero,
      (sortFailures_perm _).length_eq]
  have hfinished : pool.finished.length = units.length := by omega
  simp only [processUnits, ← hpool, hfailures, hempty, fullResult, hfinished, List.isEmpty_iff,
    Nat.lt_irrefl, if_false]
  split_ifs <;> rfl

/-- How the result of work is tied to what happened in it. -/
structure FitsTrace (units : List WorkUnit) (trace : List PoolEvent)
    (result : Except ProcessError Nat) : Prop where
  /-- The work was cancelled if a unit saw the flag up. -/
  cancelled : (∃ completed total, result = .error (.cancelled completed total)) ↔
    ∃ u, .looked u true ∈ trace
  /-- Then the units that ran are counted, and one is missing. -/
  counts : ∀ completed total, result = .error (.cancelled completed total) →
    completed = (trace.filterMap PoolEvent.runner?).length ∧ total = units.length ∧
      completed < total
  /-- Otherwise it failed if a unit failed. -/
  failed : (∃ failures, result = .error (.unitFailures failures)) ↔
    (∀ u, .looked u true ∉ trace) ∧ ∃ w ∈ units, w.entry?.isSome
  /-- Then the report of failures is complete. -/
  failures : ∀ failures, result = .error (.unitFailures failures) → ReportsFailures units failures
  /-- Otherwise all went well. -/
  ok : ∀ n, result = .ok n ↔
    (∀ u, .looked u true ∉ trace) ∧ (∀ w ∈ units, w.entry? = none) ∧ n = units.length

theorem processUnits_fitsTrace :
    FitsTrace units (workHistory units schedule flag)
      (processUnits schedule flag units).result := by
  have hsome : (∃ w ∈ units, w.entry?.isSome) ↔ units.filterMap WorkUnit.entry? ≠ [] := by
    simp [List.filterMap_eq_nil_iff, Option.ne_none_iff_isSome]
  by_cases hup : ∃ u, .looked u true ∈ workHistory units schedule flag
  · obtain ⟨hlt, hresult⟩ := processUnits_result_of_looked_up units schedule flag hup
    have hdown : ¬ ∀ u, .looked u true ∉ workHistory units schedule flag := by simpa using hup
    rw [hresult]
    exact {
      cancelled := iff_of_true ⟨_, _, rfl⟩ hup
      counts := fun completed total h => by cases h; exact ⟨rfl, rfl, hlt⟩
      failed := iff_of_false (by rintro ⟨_, ⟨⟩⟩) fun h => hdown h.1
      failures := nofun
      ok := fun n => iff_of_false nofun fun h => hdown h.1 }
  · have hdown := not_exists.1 hup
    rw [processUnits_result_of_looked_down units schedule flag hdown, fullResult]
    split_ifs with hnil
    · exact {
        cancelled := iff_of_false (by rintro ⟨_, _, ⟨⟩⟩) hup
        counts := nofun
        failed := iff_of_false (by rintro ⟨_, ⟨⟩⟩) fun h => hsome.1 h.2 hnil
        failures := nofun
        ok := fun n => ⟨fun h => by cases h; exact ⟨hdown, List.filterMap_eq_nil_iff.1 hnil, rfl⟩,
          fun h => by rw [h.2.2]⟩ }
    · exact {
        cancelled := iff_of_false (by rintro ⟨_, _, ⟨⟩⟩) hup
        counts := nofun
        failed := iff_of_true ⟨_, rfl⟩ ⟨hdown, hsome.2 hnil⟩
        failures := fun failures h => by cases h; exact reportsFailures_sortFailures units
        ok := fun n => iff_of_false nofun fun h => hnil (List.filterMap_eq_nil_iff.2 h.2.1) }

/-- **Processing is correct under every schedule.** Whatever the units do and however they share the
workers, every unit looks at the flag once, none runs twice, and those run that saw the flag down.
The result fits what happened, and two schedules in which no unit saw the flag up have the same
result. `processAll` is the case in which a processor says what the work on each record does. -/
theorem processUnits_correct :
    let trace := workHistory units schedule flag
    let result := (processUnits schedule flag units).result
    (trace.filterMap PoolEvent.looker?).Perm (List.range units.length) ∧
      (trace.filterMap PoolEvent.runner?).Nodup ∧
      (∀ u, .ran u ∈ trace ↔ .looked u false ∈ trace) ∧
      FitsTrace units trace result ∧
      ∀ schedule' flag', (∀ u, .looked u true ∉ trace) →
        (∀ u, .looked u true ∉ workHistory units schedule' flag') →
          (processUnits schedule' flag' units).result = result := by
  have hlooked := Pool.history_looked (units.map (·.call)) schedule flag
  rw [List.length_map] at hlooked
  refine ⟨hlooked, Pool.history_ran_nodup _ schedule flag,
    fun u => Pool.ran_mem_history_iff _ schedule flag, processUnits_fitsTrace units schedule flag,
    fun schedule' flag' h h' => ?_⟩
  rw [processUnits_result_of_looked_down units schedule flag h,
    processUnits_result_of_looked_down units schedule' flag' h']

/-- The first second of 2024. -/
def newYear : Timestamp where
  date := { year := 2024, month := 1, day := 1, year_mem := by decide, month_mem := by decide,
            day_mem := by decide }
  time := .midnight

/-- A unit that is refused and a unit that panics, on one record. -/
def twoFailures : List WorkUnit :=
  let record : Record := { timestamp := newYear, level := "Info", id := ⟨7⟩ }
  [{ record, call := { result := .refused "full" } },
    { record, call := { result := .panicked none } }]

/-- The units fail alike, whichever of them runs first. -/
theorem processUnits_correct_twoFailures :
    (∀ u, .looked u true ∉ workHistory twoFailures [.look 1, .run 1] false) ∧
      (∀ u, .looked u true ∉ workHistory twoFailures [] false) ∧
      (processUnits [] false twoFailures).result =
        (processUnits [.look 1, .run 1] false twoFailures).result := by
  have hfirst : workHistory twoFailures [.look 1, .run 1] false =
      [.looked 1 false, .ran 1, .looked 0 false, .ran 0] := by decide +kernel
  have hsecond : workHistory twoFailures [] false =
      [.looked 0 false, .ran 0, .looked 1 false, .ran 1] := by decide +kernel
  have hdown : ∀ u, .looked u true ∉ workHistory twoFailures [.look 1, .run 1] false := by
    simp [hfirst]
  have hdown' : ∀ u, .looked u true ∉ workHistory twoFailures [] false := by simp [hsecond]
  obtain ⟨-, -, -, -, hsame⟩ := processUnits_correct twoFailures [.look 1, .run 1] false
  exact ⟨hdown, hdown', hsame [] false hdown hdown'⟩

end LogDigest
