import LogDigest.Proofs.Run.Processing
import LogDigest.Run.Analyzer
import Mathlib.Algebra.Group.Nat.Defs

/-!
# Shifted identities

What becomes of records, failures and work when every identity is larger by the same number.

The counter of identities is the one thing that a run inherits from the runs before it, so two runs
that differ in nothing else work on records that are shifted against each other. Shifting commutes
with all that is done to records: with exporting them as far as it may fail, with reporting the
failures of the work on them, and with sorting these, if it keeps the order of the identities
(`Aligned`). Identities keep their order unless the counter wraps between them.
-/

namespace LogDigest

variable {ε ε' α β : Type}

/-! ## Shifting -/

/-- The identity that is larger by `d`. -/
def RecordId.shift (d : UInt64) (id : RecordId) : RecordId := ⟨id.value + d⟩

/-- The record with a larger identity. -/
def Record.shift (d : UInt64) (r : Record) : Record := { r with id := r.id.shift d }

/-- The failure for a record with a larger identity. -/
def UnitFailure.shift (d : UInt64) (f : UnitFailure) : UnitFailure :=
  { f with record := f.record.shift d }

/-- The failure for records with larger identities. -/
def FilterError.shift (d : UInt64) : FilterError → FilterError
  | unknownLevel level id => unknownLevel level (id.shift d)
  | e => e

/-- The failure for records with larger identities. -/
def ProcessError.shift (d : UInt64) : ProcessError → ProcessError
  | unitFailures failures => unitFailures (failures.map (·.shift d))
  | e => e

/-- The cause for records with larger identities. -/
def Cause.shift (d : UInt64) : Cause → Cause
  | filter e => filter (e.shift d)
  | process e => process (e.shift d)
  | cause => cause

/-- The stop for records with larger identities. -/
def Stop.shift (d : UInt64) : Stop → Stop
  | failed e => failed { e with cause := e.cause.shift d }
  | unwound message => unwound message

theorem RecordId.shift_zero (id : RecordId) : id.shift 0 = id := by
  cases id
  simp [shift]

theorem Record.shift_zero (r : Record) : r.shift 0 = r := by
  rw [shift, RecordId.shift_zero]

theorem UnitFailure.shift_zero (f : UnitFailure) : f.shift 0 = f := by
  rw [shift, RecordId.shift_zero]

theorem Record.map_shift_zero (records : List Record) : records.map (·.shift 0) = records := by
  simp [shift_zero]

theorem FilterError.shift_zero (e : FilterError) : e.shift 0 = e := by
  cases e <;> simp [shift, RecordId.shift_zero]

theorem Stop.shift_zero (stop : Stop) : stop.shift 0 = stop := by
  rcases stop with ⟨stage, cause⟩ | message
  · have hprocess : ∀ e : ProcessError, e.shift 0 = e := by
      intro e
      cases e <;> simp [ProcessError.shift, UnitFailure.shift_zero]
    cases cause <;> simp [shift, Cause.shift, FilterError.shift_zero, hprocess]
  · rfl

/-! ## Order -/

/-- Shifting keeps the order of the identities of these records. -/
def Aligned (d : UInt64) (records : List Record) : Prop :=
  ∀ r ∈ records, ∀ s ∈ records,
    (r.id.value ≤ s.id.value ↔ (r.shift d).id.value ≤ (s.shift d).id.value)

theorem aligned_nil (d : UInt64) : Aligned d [] := fun _ hr => nomatch hr

theorem aligned_zero (records : List Record) : Aligned 0 records := by
  intro r _ s _
  rw [Record.shift_zero, Record.shift_zero]

/-- Records have consecutive identities from this number on. -/
inductive Consecutive : UInt64 → List Record → Prop
  | nil {next : UInt64} : Consecutive next []
  | cons {next : UInt64} {r : Record} {rs : List Record} (first : r.id.value = next)
      (rest : Consecutive (next + 1) rs) : Consecutive next (r :: rs)

theorem toNat_succ_of_lt {n : UInt64} (h : n.toNat + 1 < 2 ^ 64) : (n + 1).toNat = n.toNat + 1 := by
  rw [UInt64.toNat_add, UInt64.toNat_one, Nat.mod_eq_of_lt h]

theorem Consecutive.bounds {next : UInt64} {records : List Record}
    (h : Consecutive next records) (hwrap : next.toNat + records.length ≤ 2 ^ 64) :
    ∀ r ∈ records, next.toNat ≤ r.id.value.toNat ∧
      r.id.value.toNat < next.toNat + records.length := by
  induction h with
  | nil => exact fun _ hr => nomatch hr
  | @cons next r rs hfirst _ ih =>
    subst hfirst
    intro s hs
    rw [List.length_cons] at hwrap ⊢
    rcases List.mem_cons.1 hs with rfl | hs
    · omega
    · have hpos := List.length_pos_of_mem hs
      have hnext := toNat_succ_of_lt (n := r.id.value) (by omega)
      have := ih (by omega) s hs
      omega

/-- Consecutive identities are kept in order if the counter wraps neither before nor after
shifting. -/
theorem Consecutive.aligned {next d : UInt64} {records : List Record}
    (h : Consecutive next records) (hwrap : next.toNat + records.length ≤ 2 ^ 64)
    (hshift : (next + d).toNat + records.length ≤ 2 ^ 64) : Aligned d records := by
  -- A record is as far from the first one after shifting as it was before.
  have hmove : ∀ r ∈ records,
      (r.id.value + d).toNat = r.id.value.toNat - next.toNat + (next + d).toNat := by
    intro r hr
    obtain ⟨hlow, hhigh⟩ := h.bounds hwrap r hr
    rw [UInt64.toNat_add] at hshift ⊢
    rw [UInt64.toNat_add]
    omega
  intro r hr s hs
  have hlow := (h.bounds hwrap r hr).1
  have hlow' := (h.bounds hwrap s hs).1
  simp only [Record.shift, RecordId.shift, UInt64.le_iff_toNat_le, hmove r hr, hmove s hs]
  omega

/-! ## Work on shifted records -/

/-- The work without what it logs. -/
def UnitCall.quiet (c : UnitCall) : UnitCall := { c with events := [] }

/-- The pool without what was logged. -/
def Pool.quiet (p : Pool) : Pool := { p with events := [] }

theorem Pool.step_quiet (units : List UnitCall) (p : Pool) (s : PoolStep) :
    (p.step units s).quiet = p.quiet.step (units.map UnitCall.quiet) s := by
  cases s with
  | raise => rfl
  | look u =>
    have hlooked : p.quiet.hasLooked u = p.hasLooked u := rfl
    have hflag : p.quiet.flag = p.flag := rfl
    simp only [step, List.length_map, hlooked, hflag]
    split_ifs <;> rfl
  | run u =>
    have hstarted : p.quiet.started = p.started := rfl
    simp only [step, List.getElem?_map, hstarted]
    split_ifs
    · cases units[u]? <;> rfl
    · rfl

theorem Pool.run_quiet (units : List UnitCall) (schedule : Schedule) (flag : Bool) :
    (run units schedule flag).quiet = run (units.map UnitCall.quiet) schedule flag := by
  have hfold : ∀ (steps : Schedule) (p : Pool), (steps.foldl (step units) p).quiet =
      steps.foldl (step (units.map UnitCall.quiet)) p.quiet := by
    intro steps
    induction steps with
    | nil => exact fun _ => rfl
    | cons s steps ih =>
      intro p
      rw [List.foldl_cons, List.foldl_cons, ih, step_quiet]
  rw [run, hfold, run, List.length_map]
  rfl

/-- The unit without what it logs. -/
def WorkUnit.quiet (w : WorkUnit) : WorkUnit := { w with call := w.call.quiet }

/-- The unit for a record with a larger identity. -/
def WorkUnit.shift (d : UInt64) (w : WorkUnit) : WorkUnit := { w with record := w.record.shift d }

theorem unitFailures_map {f : WorkUnit → WorkUnit} {g : UnitFailure → UnitFailure}
    (h : ∀ w, (f w).failure? = w.failure?.map g) (finished : List Nat) (units : List WorkUnit) :
    unitFailures finished (units.map f) = (unitFailures finished units).map g := by
  simp only [unitFailures, List.zipIdx_map, List.filterMap_map, List.map_filterMap]
  refine List.filterMap_congr fun (w, u) _ => ?_
  simp only [Function.comp_apply, Prod.map_apply, id_eq, h]
  split <;> rfl

/-- What work does to the records and to the flag does not depend on what it logs. -/
theorem processUnits_quiet (schedule : Schedule) (flag : Bool) (units : List WorkUnit) :
    let p := processUnits schedule flag units
    let q := processUnits schedule flag (units.map WorkUnit.quiet)
    q.result = p.result ∧ q.flag = p.flag := by
  have hpool := Pool.run_quiet (units.map (·.call)) schedule flag
  have hcalls : (units.map (·.call)).map UnitCall.quiet =
      (units.map WorkUnit.quiet).map (·.call) := by
    rw [List.map_map, List.map_map]
    rfl
  have hfailures : ∀ finished, unitFailures finished (units.map WorkUnit.quiet) =
      unitFailures finished units := fun finished => by
    rw [unitFailures_map (g := id) (fun w => by rw [Option.map_id, id]; rfl), List.map_id]
  rw [hcalls] at hpool
  simp only [processUnits, ← hpool, hfailures, List.length_map, Pool.quiet, and_self]

theorem sortFailures_shift {d : UInt64} {failures : List UnitFailure}
    (h : ∀ f ∈ failures, ∀ g ∈ failures, f.mayPrecede g = (f.shift d).mayPrecede (g.shift d)) :
    sortFailures (failures.map (·.shift d)) = (sortFailures failures).map (·.shift d) :=
  (List.map_mergeSort h).symm

theorem mem_unitFailures {finished : List Nat} {units : List WorkUnit} {f : UnitFailure}
    (h : f ∈ unitFailures finished units) : ∃ w ∈ units, f.record = w.record.id := by
  obtain ⟨⟨w, u⟩, hw, hf⟩ := List.mem_filterMap.1 h
  refine ⟨w, List.fst_mem_of_mem_zipIdx hw, ?_⟩
  dsimp only at hf
  split at hf
  · obtain ⟨reason, -, rfl⟩ := Option.map_eq_some_iff.1 hf
    rfl
  · cases hf

theorem processUnits_shift {d : UInt64} {units : List WorkUnit}
    (h : Aligned d (units.map (·.record))) (schedule : Schedule) (flag : Bool) :
    let p := processUnits schedule flag units
    let q := processUnits schedule flag (units.map (WorkUnit.shift d))
    q.result = p.result.mapError (·.shift d) ∧ q.flag = p.flag := by
  have hcalls : (units.map (WorkUnit.shift d)).map (·.call) = units.map (·.call) := by
    rw [List.map_map]
    rfl
  have hfailures : ∀ finished, sortFailures (unitFailures finished (units.map (WorkUnit.shift d))) =
      (sortFailures (unitFailures finished units)).map (·.shift d) := fun finished => by
    rw [unitFailures_map (g := (·.shift d)) fun w => ?_, sortFailures_shift fun f hf g hg => ?_]
    · obtain ⟨v, hv, hfv⟩ := mem_unitFailures hf
      obtain ⟨w, hw, hgw⟩ := mem_unitFailures hg
      have := h v.record (List.mem_map_of_mem hv) w.record (List.mem_map_of_mem hw)
      simpa only [UnitFailure.mayPrecede, UnitFailure.shift, hfv, hgw, decide_eq_decide]
    · rw [WorkUnit.failure?, WorkUnit.failure?, Option.map_map]
      rfl
  simp only [processUnits, hcalls, hfailures, List.length_map, List.isEmpty_map]
  refine ⟨?_, trivial⟩
  split_ifs <;> rfl

/-- **Work on shifted records** ends as the work on the records does, with every identity in the
failures shifted, if the work looks at no identity. -/
theorem processAll_shift {d : UInt64} {processor : Processor} {records : List Record}
    (hblind : ∀ r, (processor (r.shift d)).quiet = (processor r).quiet) (h : Aligned d records)
    (schedule : Schedule) (flag : Bool) :
    let p := processAll processor schedule flag records
    let q := processAll processor schedule flag (records.map (·.shift d))
    q.result = p.result.mapError (·.shift d) ∧ q.flag = p.flag := by
  -- The processor may log something else for a shifted record, so both are compared by what they do
  -- to units that log nothing.
  set unit : Record → WorkUnit := fun r => { record := r, call := processor r } with hunit
  have hquiet : ((records.map (·.shift d)).map unit).map WorkUnit.quiet =
      ((records.map unit).map WorkUnit.quiet).map (WorkUnit.shift d) := by
    simp only [List.map_map]
    refine List.map_congr_left fun r _ => ?_
    simp only [Function.comp_apply, WorkUnit.quiet, WorkUnit.shift, hunit, hblind]
  have hrecords : ((records.map unit).map WorkUnit.quiet).map (·.record) = records := by
    rw [List.map_map, List.map_map]
    exact List.map_id' records
  have hshift := processUnits_shift (hrecords.symm ▸ h) schedule flag
  rw [← hquiet] at hshift
  have hp := processUnits_quiet schedule flag (records.map unit)
  have hq := processUnits_quiet schedule flag ((records.map (·.shift d)).map unit)
  exact ⟨hq.1.symm.trans (hshift.1.trans (by rw [hp.1]; rfl)),
    hq.2.symm.trans (hshift.2.trans hp.2)⟩

end LogDigest
