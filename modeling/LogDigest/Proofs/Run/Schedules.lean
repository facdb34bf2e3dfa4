import LogDigest.Run.Pool
import Mathlib.Data.List.Nodup
import Mathlib.Data.List.Perm.Basic

/-!
# Schedules of a pool

What the units of work do under a schedule.

**Traces.** The trace of a schedule is what happens in it, step by step: a unit looks at the flag
and sees it up or down, or a unit runs. Steps that are not due leave no mark. `Does` lists what a
step can do; everything below is one case for each of its entries, and then an induction over the
steps.

**Every unit is settled once** (`run_partition`). A unit looks once, and then either it is skipped
or it runs, once. Units that were skipped, that are under way and that ran are never confused
(`Sound`), whatever the order of the steps. Behind the last step of any schedule the remaining units
look and run, so at the end every unit is in one of two lists.

**The flag is never lowered** (`flag_steps_iff`). At the end it is up if it was up at first, or if a
step or a unit that ran raised it.

A schedule is any list of steps. Those of a pool with so many workers are the lists in which at most
so many units are under way at once, and what holds for every list holds for them.
-/

namespace LogDigest

/-- What happens in a step. -/
inductive PoolEvent where
  /-- A unit looks at the flag, which is up or down. -/
  | looked (unit : Nat) (up : Bool)
  /-- A unit runs. -/
  | ran (unit : Nat)
deriving DecidableEq, Repr

namespace PoolEvent

def looker? : PoolEvent → Option Nat
  | looked u _ => some u
  | ran _ => none

/-- The unit that sees the flag up. -/
def skipper? : PoolEvent → Option Nat
  | looked u true => some u
  | looked _ false | ran _ => none

/-- The unit that sees the flag down. -/
def starter? : PoolEvent → Option Nat
  | looked u false => some u
  | looked _ true | ran _ => none

/-- The unit that runs. -/
def runner? : PoolEvent → Option Nat
  | looked .. => none
  | ran u => some u

variable {u : Nat} {trace : List PoolEvent}

theorem mem_filterMap_skipper? : u ∈ trace.filterMap skipper? ↔ looked u true ∈ trace := by
  rw [List.mem_filterMap]
  refine ⟨fun ⟨e, he, h⟩ => ?_, fun h => ⟨_, h, rfl⟩⟩
  cases e with
  | ran v => cases h
  | looked v up => cases up <;> cases h; exact he

theorem mem_filterMap_starter? : u ∈ trace.filterMap starter? ↔ looked u false ∈ trace := by
  rw [List.mem_filterMap]
  refine ⟨fun ⟨e, he, h⟩ => ?_, fun h => ⟨_, h, rfl⟩⟩
  cases e with
  | ran v => cases h
  | looked v up => cases up <;> cases h; exact he

theorem mem_filterMap_runner? : u ∈ trace.filterMap runner? ↔ ran u ∈ trace := by
  rw [List.mem_filterMap]
  refine ⟨fun ⟨e, he, h⟩ => ?_, fun h => ⟨_, h, rfl⟩⟩
  cases e <;> cases h
  exact he

end PoolEvent

namespace Pool

variable {units : List UnitCall}

/-! ## Steps -/

/-- What happens in a step, if it is due. -/
def event? (units : List UnitCall) (p : Pool) : PoolStep → Option PoolEvent
  | .raise => none
  | .look u => if units.length ≤ u ∨ p.hasLooked u then none else some (.looked u p.flag)
  | .run u => if p.started.contains u ∧ u < units.length then some (.ran u) else none

def trace (units : List UnitCall) (p : Pool) : Schedule → List PoolEvent
  | [] => []
  | s :: steps => (p.event? units s).toList ++ trace units (p.step units s) steps

/-- A step, what happens in it, and the pool that it leaves. -/
inductive Does (units : List UnitCall) (p : Pool) : PoolStep → Option PoolEvent → Pool → Prop
  | idle {s : PoolStep} (h : s ≠ .raise) : Does units p s none p
  | raise : Does units p .raise none { p with flag := true }
  | skip {u : Nat} (lt : u < units.length) (new : u ∉ p.skipped ++ p.started ++ p.finished)
      (up : p.flag = true) :
      Does units p (.look u) (some (.looked u true)) { p with skipped := u :: p.skipped }
  | start {u : Nat} (lt : u < units.length) (new : u ∉ p.skipped ++ p.started ++ p.finished)
      (down : p.flag = false) :
      Does units p (.look u) (some (.looked u false)) { p with started := u :: p.started }
  | run {u : Nat} {c : UnitCall} (started : u ∈ p.started) (call : units[u]? = some c) :
      Does units p (.run u) (some (.ran u))
        { p with
          flag := p.flag || c.cancels
          started := p.started.erase u
          finished := p.finished ++ [u]
          events := p.events ++ c.events }

theorem hasLooked_iff (p : Pool) (u : Nat) :
    p.hasLooked u = true ↔ u ∈ p.skipped ++ p.started ++ p.finished := by
  simp [hasLooked, or_assoc]

theorem step_does (p : Pool) (s : PoolStep) :
    Does units p s (p.event? units s) (p.step units s) := by
  cases s with
  | raise => exact .raise
  | look u =>
    simp only [event?, step]
    split_ifs with hidle hflag
    · exact .idle (by simp)
    · rw [not_or, Nat.not_le, hasLooked_iff] at hidle
      simpa [hflag] using Does.skip hidle.1 hidle.2 hflag
    · rw [not_or, Nat.not_le, hasLooked_iff] at hidle
      rw [Bool.not_eq_true] at hflag
      simpa [hflag] using Does.start hidle.1 hidle.2 hflag
  | run u =>
    have hidle : Does units p (.run u) none p := .idle (by simp)
    simp only [event?, step]
    by_cases hstarted : u ∈ p.started
    · cases hcall : units[u]? with
      | none =>
        have := List.getElem?_eq_none_iff.1 hcall
        rw [if_neg (by omega)]
        simpa [hstarted] using hidle
      | some c =>
        have := (List.getElem?_eq_some_iff.1 hcall).1
        rw [if_pos ⟨by simpa using hstarted, this⟩]
        simpa [hstarted] using Does.run hstarted hcall
    · simpa [hstarted] using hidle

/-! ## Units are not confused -/

/-- Every unit is skipped, under way or finished at most once. -/
structure Sound (units : List UnitCall) (p : Pool) : Prop where
  nodup : (p.skipped ++ p.started ++ p.finished).Nodup
  bound : ∀ u ∈ p.skipped ++ p.started ++ p.finished, u < units.length

theorem perm_admitted {p : Pool} {u : Nat} (h : u ∈ p.started) :
    (p.started.erase u ++ (p.finished ++ [u])).Perm (p.started ++ p.finished) := by
  have hmoved : (p.started.erase u ++ (p.finished ++ [u])).Perm
      (u :: p.started.erase u ++ p.finished) := by
    rw [← List.append_assoc]
    exact List.perm_append_singleton u _
  exact hmoved.trans ((List.perm_cons_erase h).symm.append_right _)

theorem perm_finish {p : Pool} {u : Nat} (h : u ∈ p.started) :
    (p.skipped ++ p.started.erase u ++ (p.finished ++ [u])).Perm
      (p.skipped ++ p.started ++ p.finished) := by
  simp only [List.append_assoc]
  exact (perm_admitted h).append_left _

theorem Sound.initial (flag : Bool) : Sound units { flag } :=
  ⟨List.nodup_nil, nofun⟩

theorem perm_start (p : Pool) (u : Nat) :
    (p.skipped ++ u :: p.started ++ p.finished).Perm
      (u :: (p.skipped ++ p.started ++ p.finished)) := by
  simp only [List.append_assoc, List.cons_append]
  exact List.perm_middle

/-- The units that have looked, after a step: one more if a unit looked in it. -/
theorem Does.perm_looked {p p' : Pool} {s : PoolStep} {e : Option PoolEvent}
    (h : Does units p s e p') :
    (p'.skipped ++ p'.started ++ p'.finished).Perm
      ((e.bind PoolEvent.looker?).toList ++ (p.skipped ++ p.started ++ p.finished)) := by
  cases h with
  | idle => exact .refl _
  | raise => exact .refl _
  | skip => exact .refl _
  | @start u => exact perm_start p u
  | run started => exact perm_finish started

theorem Does.new {p p' : Pool} {s : PoolStep} {e : PoolEvent} {u : Nat}
    (h : Does units p s (some e) p') (hu : e.looker? = some u) :
    u < units.length ∧ u ∉ p.skipped ++ p.started ++ p.finished := by
  cases h with
  | skip lt new => cases hu; exact ⟨lt, new⟩
  | start lt new => cases hu; exact ⟨lt, new⟩
  | run => cases hu

theorem Sound.does {p p' : Pool} {s : PoolStep} {e : Option PoolEvent} (h : Sound units p)
    (hd : Does units p s e p') : Sound units p' := by
  have hperm := hd.perm_looked
  cases hlooker : e.bind PoolEvent.looker? with
  | none =>
    rw [hlooker] at hperm
    exact ⟨hperm.nodup_iff.2 h.nodup, fun v hv => h.bound v (hperm.mem_iff.1 hv)⟩
  | some u =>
    obtain ⟨e, rfl, hu⟩ := Option.bind_eq_some_iff.1 hlooker
    obtain ⟨lt, new⟩ := hd.new hu
    rw [hlooker] at hperm
    refine ⟨hperm.nodup_iff.2 (List.nodup_cons.2 ⟨new, h.nodup⟩), fun v hv => ?_⟩
    rcases List.mem_cons.1 (hperm.mem_iff.1 hv) with rfl | hv
    · exact lt
    · exact h.bound v hv

theorem Sound.steps {p : Pool} (h : Sound units p) (steps : Schedule) :
    Sound units (steps.foldl (step units) p) := by
  induction steps generalizing p with
  | nil => exact h
  | cons s steps ih => exact ih (h.does (step_does p s))

/-! ## The pool and its trace -/

/-- The pool is what a trace says: who looked, who was skipped, and who ran. -/
structure Follows (trace : List PoolEvent) (p : Pool) : Prop where
  looked : (p.skipped ++ p.started ++ p.finished).Perm (trace.filterMap PoolEvent.looker?)
  skipped : p.skipped.Perm (trace.filterMap PoolEvent.skipper?)
  admitted : (p.started ++ p.finished).Perm (trace.filterMap PoolEvent.starter?)
  finished : p.finished = trace.filterMap PoolEvent.runner?

theorem Follows.does {trace : List PoolEvent} {p p' : Pool} {s : PoolStep} {e : Option PoolEvent}
    (h : Follows trace p) (hd : Does units p s e p') : Follows (trace ++ e.toList) p' := by
  have hlooked : (p'.skipped ++ p'.started ++ p'.finished).Perm
      ((trace ++ e.toList).filterMap PoolEvent.looker?) := by
    refine hd.perm_looked.trans ((h.looked.append_left _).trans ?_)
    rw [List.filterMap_append]
    cases e <;> exact List.perm_append_comm
  refine ⟨hlooked, ?_, ?_, ?_⟩ <;> rw [List.filterMap_append]
  · cases hd with
    | idle => simpa using h.skipped
    | raise => simpa using h.skipped
    | @skip u => exact (h.skipped.cons u).trans (List.perm_append_singleton u _).symm
    | start => simpa [List.filterMap_cons, PoolEvent.skipper?] using h.skipped
    | run => simpa [List.filterMap_cons, PoolEvent.skipper?] using h.skipped
  · cases hd with
    | idle => simpa using h.admitted
    | raise => simpa using h.admitted
    | skip => simpa [List.filterMap_cons, PoolEvent.starter?] using h.admitted
    | @start u => exact (h.admitted.cons u).trans (List.perm_append_singleton u _).symm
    | run started =>
      simpa [List.filterMap_cons, PoolEvent.starter?] using
        (perm_admitted started).trans h.admitted
  · cases hd with
    | idle => simpa using h.finished
    | raise => simpa using h.finished
    | skip => simpa [List.filterMap_cons, PoolEvent.runner?] using h.finished
    | start => simpa [List.filterMap_cons, PoolEvent.runner?] using h.finished
    | run => simp [PoolEvent.runner?, h.finished]

theorem Follows.steps {past : List PoolEvent} {p : Pool} (h : Follows past p) (steps : Schedule) :
    Follows (past ++ trace units p steps) (steps.foldl (step units) p) := by
  induction steps generalizing past p with
  | nil => simpa [trace] using h
  | cons s steps ih =>
    rw [trace, ← List.append_assoc]
    exact ih (h.does (step_does p s))

/-! ## The flag -/

/-- A step leaves the flag up if it was up, or if the step or the unit that runs in it raises it. -/
theorem Does.flag_iff {p p' : Pool} {s : PoolStep} {e : Option PoolEvent}
    (h : Does units p s e p') :
    p'.flag = true ↔ p.flag = true ∨ s = .raise ∨
      ∃ u c, e = some (.ran u) ∧ units[u]? = some c ∧ c.cancels = true := by
  cases h with
  | idle hs => simp [hs]
  | raise => simp
  | skip => simp
  | start => simp
  | run started call => simp [call]

theorem flag_steps_iff (p : Pool) (steps : Schedule) :
    (steps.foldl (step units) p).flag = true ↔ p.flag = true ∨ .raise ∈ steps ∨
      ∃ u c, .ran u ∈ trace units p steps ∧ units[u]? = some c ∧ c.cancels = true := by
  induction steps generalizing p with
  | nil => simp [trace]
  | cons s steps ih =>
    rw [List.foldl_cons, ih, (step_does p s).flag_iff, List.mem_cons, trace]
    simp only [List.mem_append, Option.mem_toList, eq_comm (a := PoolStep.raise), or_and_right,
      exists_or]
    rw [or_assoc, or_or_or_comm]

/-- A flag that a unit saw up is up at the end. -/
theorem flag_of_looked_up {p : Pool} {steps : Schedule} {u : Nat}
    (h : .looked u true ∈ trace units p steps) : (steps.foldl (step units) p).flag = true := by
  induction steps generalizing p with
  | nil => simp [trace] at h
  | cons s steps ih =>
    rw [trace, List.mem_append, Option.mem_toList] at h
    rcases h with h | h
    · have hdoes : Does units p s _ _ := step_does p s
      rw [h] at hdoes
      refine (flag_steps_iff _ steps).2 (Or.inl ?_)
      generalize p.step units s = p' at hdoes
      cases hdoes with
      | skip lt new up => exact up
    · exact ih h

/-! ## Every unit is settled -/

/-- The unit was skipped or ran. -/
def Settled (p : Pool) (u : Nat) : Prop := u ∈ p.skipped ∨ u ∈ p.finished

theorem Settled.does {p p' : Pool} {s : PoolStep} {e : Option PoolEvent} {u : Nat}
    (h : Settled p u) (hd : Does units p s e p') : Settled p' u := by
  cases hd with
  | idle => exact h
  | raise => exact h
  | skip => exact h.imp_left (List.mem_cons_of_mem _)
  | start => exact h
  | run => exact h.imp_right (List.mem_append_left _)

theorem Settled.steps {p : Pool} {u : Nat} (h : Settled p u) (steps : Schedule) :
    Settled (steps.foldl (step units) p) u := by
  induction steps generalizing p with
  | nil => exact h
  | cons s steps ih => exact ih (h.does (step_does p s))

theorem settled_look_run {p : Pool} {u : Nat} (hu : u < units.length) :
    Settled ((p.step units (.look u)).step units (.run u)) u := by
  have hcall : units[u]? = some units[u] := List.getElem?_eq_getElem hu
  have hrun : ∀ {q : Pool}, u ∈ q.started → Settled (q.step units (.run u)) u := by
    intro q hq
    right
    simp [step, hq, hcall]
  by_cases hnew : u ∈ p.skipped ++ p.started ++ p.finished
  · -- It has looked before, so it is settled already or due to run.
    have hidle : p.step units (.look u) = p := by
      rw [step, if_pos (Or.inr ((hasLooked_iff p u).2 hnew))]
    rw [hidle]
    simp only [List.mem_append] at hnew
    rcases hnew with (hnew | hnew) | hnew
    · exact Settled.does (Or.inl hnew) (step_does p _)
    · exact hrun hnew
    · exact Settled.does (Or.inr hnew) (step_does p _)
  · have hdue : ¬ (units.length ≤ u ∨ p.hasLooked u = true) := by
      rw [hasLooked_iff]
      exact fun h => h.elim (Nat.not_le.2 hu) hnew
    cases hflag : p.flag with
    | true =>
      refine Settled.does (Or.inl ?_) (step_does _ _)
      simp [step, hdue, hflag]
    | false =>
      apply hrun
      simp [step, hdue, hflag]

theorem settled_inOrder (p : Pool) {us : List Nat} (hus : ∀ u ∈ us, u < units.length) :
    ∀ u ∈ us, Settled ((us.flatMap fun u => [.look u, .run u]).foldl (step units) p) u := by
  induction us generalizing p with
  | nil => exact nofun
  | cons v us ih =>
    intro u hu
    rw [List.forall_mem_cons] at hus
    rw [List.flatMap_cons, List.foldl_append]
    rcases List.mem_cons.1 hu with rfl | hu
    · exact (settled_look_run hus.1).steps _
    · exact ih _ hus.2 u hu

/-! ## Whole schedules -/

/-- What happens from the first step of a schedule until every unit is settled. -/
def history (units : List UnitCall) (schedule : Schedule) (flag : Bool) : List PoolEvent :=
  trace units { flag } (schedule ++ Schedule.inOrder units.length)

variable (units) (schedule : Schedule) (flag : Bool)

theorem run_sound : Sound units (run units schedule flag) := (Sound.initial flag).steps _

theorem run_follows : Follows (history units schedule flag) (run units schedule flag) :=
  have h : Follows [] { flag } := ⟨.refl _, .refl _, .refl _, rfl⟩
  h.steps _

theorem run_settled {u : Nat} (hu : u < units.length) : Settled (run units schedule flag) u := by
  rw [run, List.foldl_append]
  exact settled_inOrder _ (fun v hv => List.mem_range.1 hv) u (List.mem_range.2 hu)

theorem run_started : (run units schedule flag).started = [] := by
  have hsound := run_sound units schedule flag
  refine List.eq_nil_iff_forall_not_mem.2 fun u hu => ?_
  have hlt := hsound.bound u (by simp [hu])
  have hnodup := hsound.nodup
  rw [List.nodup_append', List.nodup_append'] at hnodup
  obtain ⟨⟨-, -, hskipped⟩, -, hfinished⟩ := hnodup
  rcases run_settled units schedule flag hlt with h | h
  · exact hskipped h hu
  · exact hfinished (List.mem_append_right _ hu) h

/-- **Every unit is settled once**: it was skipped or it ran, and not both. -/
theorem run_partition :
    ((run units schedule flag).skipped ++ (run units schedule flag).finished).Perm
      (List.range units.length) := by
  have hsound := run_sound units schedule flag
  have hstarted := run_started units schedule flag
  have hnodup := hsound.nodup
  have hbound := hsound.bound
  rw [hstarted, List.append_nil] at hnodup hbound
  refine (List.perm_ext_iff_of_nodup hnodup List.nodup_range).2 fun u => ?_
  rw [List.mem_range]
  exact ⟨hbound u, fun hu => List.mem_append.2 (run_settled units schedule flag hu)⟩

theorem history_looked :
    ((history units schedule flag).filterMap PoolEvent.looker?).Perm
      (List.range units.length) := by
  have h := (run_follows units schedule flag).looked
  rw [run_started, List.append_nil] at h
  exact h.symm.trans (run_partition units schedule flag)

theorem ran_mem_history_iff {u : Nat} :
    .ran u ∈ history units schedule flag ↔ .looked u false ∈ history units schedule flag := by
  have h := (run_follows units schedule flag).admitted
  rw [run_started, List.nil_append] at h
  rw [← PoolEvent.mem_filterMap_runner?, ← PoolEvent.mem_filterMap_starter?, ← h.mem_iff,
    (run_follows units schedule flag).finished]

theorem history_ran_nodup :
    ((history units schedule flag).filterMap PoolEvent.runner?).Nodup := by
  rw [← (run_follows units schedule flag).finished]
  exact (List.nodup_append'.1 (run_sound units schedule flag).nodup).2.1

/-- Not every unit ran if and only if a unit saw the flag up. -/
theorem length_ran_lt_iff :
    ((history units schedule flag).filterMap PoolEvent.runner?).length < units.length ↔
      ∃ u, .looked u true ∈ history units schedule flag := by
  have hfollows := run_follows units schedule flag
  have hlength := (run_partition units schedule flag).length_eq
  rw [List.length_append, List.length_range] at hlength
  rw [← hfollows.finished]
  calc (run units schedule flag).finished.length < units.length
      ↔ 0 < (run units schedule flag).skipped.length := by omega
    _ ↔ ∃ u, u ∈ (run units schedule flag).skipped := List.length_pos_iff_exists_mem
    _ ↔ ∃ u, .looked u true ∈ history units schedule flag := by
      simp only [hfollows.skipped.mem_iff, PoolEvent.mem_filterMap_skipper?]

end Pool

end LogDigest
