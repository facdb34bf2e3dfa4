import LogDigest.Proofs.Run.Parts

/-!
# Every run is closed once

However a run ends, the analyzer that it leaves is closed: it keeps no record, its cancel flag is
down, one more run is counted, and its state is `done` or names the stage that failed.

**Where a run ends** (`stagesInOrder_endsInPlace`). A run goes through the stages in their order.
While it is in a stage it stands in place: its state is that stage, and the states it entered are
the stages up to it. Parts of a stage are acts inside the stage (`Inside`), so they leave the run in
place and fail only there. The end of the run is then one case for every stage in which it may stop.

**Histories** (`replay_closed`). An analyzer is used for many runs, with other stages and files each
time, and its cancel flag may be raised in between. That it is closed is what one operation
preserves, so it is closed after every list of them.
-/

namespace LogDigest

def Stage.upTo (s : Stage) : List Stage := Stage.all.takeWhile (· != s) ++ [s]

theorem Stage.getLast?_upTo (s : Stage) :
    (s.upTo.map RunState.active).getLast? = some (.active s) := by
  simp [Stage.upTo]

namespace Run

variable {σ α β : Type}

/-! ## Where a run ends -/

/-- Where a run stands in a stage, if it entered the stages in their order. -/
def place (closed : Nat) (s : Stage) : RunState × List RunState × Nat :=
  (.active s, s.upTo.map .active, closed)

/-- The run stands in place in the stage in which it ended, which is one of these, and a failure
names this stage. -/
def EndsInPlace (closed : Nat) (among : List Stage) : Except Stop α × Run σ → Prop
  | (.ok _, r) => standing r = place closed .persisting
  | (.error (.failed e), r) =>
    e.stage ∈ among ∧ standing r = place closed e.stage ∧ e.cause.stage = e.stage
  | (.error (.unwound _), r) => ∃ s ∈ among, standing r = place closed s

theorem Inside.endsInPlace_bind {s : Stage} {x : Act σ α} {f : α → Act σ β} {r : Run σ}
    {closed : Nat} {among : List Stage} (hx : Inside s x) (hs : s ∈ among)
    (hr : standing r = place closed s)
    (hf : ∀ a r', standing r' = place closed s → EndsInPlace closed among (outcome (f a) r')) :
    EndsInPlace closed among (outcome (x >>= f) r) := by
  have hkeep := (hx.stays r).standing.trans hr
  rw [outcome_bind]
  rcases hxr : outcome x r with ⟨_ | a, r'⟩ <;> rw [hxr] at hkeep
  case error stop =>
    cases stop with
    | failed e =>
      obtain ⟨rfl, hcause⟩ := hx.fails hxr
      exact ⟨hs, hkeep, hcause⟩
    | unwound message => exact ⟨s, hs, hkeep⟩
  case ok => exact hf a r' hkeep

theorem endsInPlace_enter_bind {s t : Stage} {stages : Stages σ} {f : Unit → Act σ β} {r : Run σ}
    {closed : Nat} {among : List Stage} (hnext : t.upTo = s.upTo ++ [t])
    (hr : standing r = place closed s)
    (hf : ∀ r', standing r' = place closed t → EndsInPlace closed among (outcome (f ()) r')) :
    EndsInPlace closed among (outcome (enter stages t >>= f) r) := by
  simp only [standing, place, Prod.mk.injEq] at hr
  obtain ⟨-, hentered, hclosed⟩ := hr
  rw [enter, outcome_bind_ok (outcome_modify _ r)]
  apply hf
  simp [standing, place, note, hnext, hentered, hclosed]

/-- After reading, a run ends in place in another stage. -/
theorem laterStages_endsInPlace (stages : Stages σ) (settings : Settings) {r : Run σ}
    {closed : Nat} (hr : standing r = place closed .reading) :
    EndsInPlace closed [.filtering, .processing, .reporting, .persisting]
      (outcome (laterStages stages settings) r) := by
  refine endsInPlace_enter_bind rfl hr fun r hr => ?_
  refine (inside_selectRecords ..).endsInPlace_bind (by decide) hr fun _ r hr => ?_
  refine endsInPlace_enter_bind rfl hr fun r hr => ?_
  refine (inside_processRecords ..).endsInPlace_bind (by decide) hr fun _ r hr => ?_
  refine endsInPlace_enter_bind rfl hr fun r hr => ?_
  refine (inside_makeReport ..).endsInPlace_bind (by decide) hr fun report r hr => ?_
  refine endsInPlace_enter_bind rfl hr fun r hr => ?_
  exact (inside_persist ..).endsInPlace_bind (by decide) hr fun _ r hr => hr

theorem EndsInPlace.mono {closed : Nat} {among among' : List Stage}
    {o : Except Stop α × Run σ} (h : EndsInPlace closed among o) (hsub : among ⊆ among') :
    EndsInPlace closed among' o := by
  rcases o with ⟨(e | message) | a, r⟩
  · exact ⟨hsub h.1, h.2⟩
  · obtain ⟨s, hs, hr⟩ := h
    exact ⟨s, hsub hs, hr⟩
  · exact h

/-- The stage that a concluded run names as failed is one of those in which it may end. -/
theorem EndsInPlace.mem_of_failed {closed : Nat} {among : List Stage} {stages : Stages σ}
    {o : Except Stop Report × Run σ} (h : EndsInPlace closed among o) {s : Stage}
    (hfailed : (conclude stages o.2 o.1).state = .failed s) : s ∈ among := by
  rcases o with ⟨(e | message) | report, r⟩
  · cases hfailed
    exact h.1
  · obtain ⟨t, ht, hplace⟩ := h
    simp only [standing, place, Prod.mk.injEq] at hplace
    simp only [conclude, hplace.1, RunState.stage?] at hfailed
    cases hfailed
    exact ht
  · cases hfailed

/-- **A run ends in place**: in the stage it entered last, after the stages before it. -/
theorem stagesInOrder_endsInPlace (stages : Stages σ) (request : Request) (r : Run σ)
    (hr : r.journal.entered = []) :
    EndsInPlace r.finalizations Stage.all (outcome (stagesInOrder stages request) r) := by
  unfold stagesInOrder
  rw [enter, outcome_bind_ok (outcome_modify _ r)]
  refine (inside_readStage ..).endsInPlace_bind (by decide) ?_ fun settings r hr => ?_
  · simp [standing, place, note, hr]
    rfl
  · exact (laterStages_endsInPlace stages settings hr).mono (by decide)

theorem conclude_keeps {γ : Type} {v : Run σ → γ} {stages : Stages σ}
    (hnote : ∀ r events, v (note stages r events) = v r)
    (hstate : ∀ (r : Run σ) state, v { r with state } = v r) (r : Run σ)
    (result : Except Stop Report) : v (conclude stages r result) = v r := by
  rcases result with (e | message) | report
  · exact (hstate _ _).trans (hnote _ _)
  · rw [conclude]
    split
    · exact hstate _ _
    · rfl
  · exact (hstate _ _).trans (hnote _ _)

end Run

/-! ## Closed runs -/

/-- The state in which a run should leave the analyzer. After unwinding it names the stage that was
under way, which is the one that the run entered last. -/
def RunOutcome.EndsAs {σ : Type} (o : RunOutcome σ) (state : RunState) : Prop :=
  match o.result with
  | .ok _ => state = .done
  | .error (.failed e) => state = .failed e.stage
  | .error (.unwound _) =>
    ∃ s, o.journal.entered.getLast? = some (.active s) ∧ state = .failed s

theorem RunOutcome.EndsAs.ended {σ : Type} {o : RunOutcome σ} {state : RunState}
    (h : o.EndsAs state) : state.stage? = none ∧ state ≠ .idle := by
  unfold RunOutcome.EndsAs at h
  split at h
  · subst h; exact ⟨rfl, nofun⟩
  · subst h; exact ⟨rfl, nofun⟩
  · obtain ⟨s, -, rfl⟩ := h
    exact ⟨rfl, nofun⟩

/-- The run was closed: nothing of it is left in the analyzer but how it ended. -/
structure RunOutcome.Closed {σ : Type} (o : RunOutcome σ) : Prop where
  records : o.analyzer.records = []
  flag : o.analyzer.flag = false
  state : o.EndsAs o.analyzer.state

namespace Analyzer

variable {σ : Type}

theorem analyze_closed (stages : Stages σ) (a : Analyzer σ) (request : Request) :
    (a.analyze stages request).Closed ∧
      (a.analyze stages request).analyzer.finalizations = a.finalizations + 1 := by
  have h := Run.stagesInOrder_endsInPlace stages request (Run.begin stages a request.source) rfl
  rcases hrun : Run.outcome (Run.stagesInOrder stages request)
    (Run.begin stages a request.source) with ⟨result, r⟩
  rw [hrun] at h
  have hrun' : a.analyze stages request =
      let r' := Run.close stages (Run.conclude stages r result)
      { result, analyzer := r'.toAnalyzer, journal := r'.journal } := by
    simp only [analyze, hrun]
  rw [hrun']
  -- What is left is how `conclude` names the end of a run that stands in place.
  rcases result with stop | report
  case error =>
    cases stop with
    | failed e =>
      obtain ⟨-, hplace, -⟩ := h
      simp only [Run.standing, Run.place, Prod.mk.injEq] at hplace
      exact ⟨⟨rfl, rfl, rfl⟩, congrArg (· + 1) hplace.2.2⟩
    | unwound message =>
      obtain ⟨s, -, hplace⟩ := h
      simp only [Run.standing, Run.place, Prod.mk.injEq] at hplace
      obtain ⟨hstate, hentered, hclosed⟩ := hplace
      refine ⟨⟨rfl, rfl, s, ?_, ?_⟩, ?_⟩ <;>
        simp only [Run.close, Run.conclude, Run.note, hstate, RunState.stage?]
      · rw [hentered, Stage.getLast?_upTo]
      · exact congrArg (· + 1) hclosed
  case ok =>
    simp only [Run.EndsInPlace, Run.standing, Run.place, Prod.mk.injEq] at h
    exact ⟨⟨rfl, rfl, rfl⟩, congrArg (· + 1) h.2.2⟩

end Analyzer

/-! ## Histories -/

/-- What may be done with an analyzer. Every run has parts of its own, so anything may be replaced
between two runs. -/
inductive Operation (σ : Type) where
  /-- A run. -/
  | analyze (stages : Stages σ) (request : Request)
  /-- Raising the cancel flag. -/
  | cancel
  /-- A change of the files. -/
  | change (f : σ → σ)

namespace Operation

variable {σ : Type}

def apply (a : Analyzer σ) : Operation σ → Analyzer σ
  | analyze stages request => (a.analyze stages request).analyzer
  | cancel => a.cancel
  | change f => { a with store := f a.store }

def isRun : Operation σ → Bool
  | analyze .. => true
  | cancel | change _ => false

end Operation

namespace Analyzer

variable {σ : Type}

/-- A new analyzer, while the counter of identities has this value. -/
def new (store : σ) (ids : IdCounter) : Analyzer σ := { store, ids }

/-- The analyzer after some operations. -/
def replay (a : Analyzer σ) (ops : List (Operation σ)) : Analyzer σ := ops.foldl Operation.apply a

/-- The analyzer is between two runs, after this many of them. -/
structure Rests (runs : Nat) (a : Analyzer σ) : Prop where
  records : a.records = []
  finalizations : a.finalizations = runs
  inactive : a.state.stage? = none
  idle : a.state = .idle ↔ runs = 0

theorem rests_new (store : σ) (ids : IdCounter) : (new store ids).Rests 0 :=
  ⟨rfl, rfl, rfl, by simp [new]⟩

theorem Rests.apply {runs : Nat} {a : Analyzer σ} (h : a.Rests runs) (op : Operation σ) :
    (op.apply a).Rests (if op.isRun then runs + 1 else runs) := by
  cases op with
  | cancel => exact ⟨h.records, h.finalizations, h.inactive, h.idle⟩
  | change f => exact ⟨h.records, h.finalizations, h.inactive, h.idle⟩
  | analyze stages request =>
    obtain ⟨hclosed, hcount⟩ := analyze_closed stages a request
    obtain ⟨hinactive, hidle⟩ := RunOutcome.EndsAs.ended hclosed.state
    exact ⟨hclosed.records, hcount.trans (congrArg (· + 1) h.finalizations), hinactive,
      iff_of_false hidle (Nat.succ_ne_zero runs)⟩

theorem Rests.replay {runs : Nat} {a : Analyzer σ} (h : a.Rests runs) (ops : List (Operation σ)) :
    (a.replay ops).Rests (runs + ops.countP (·.isRun)) := by
  induction ops generalizing runs a with
  | nil => exact h
  | cons op ops ih =>
    have := ih (h.apply op)
    rw [List.countP_cons]
    by_cases hop : op.isRun <;> simp only [hop, if_true] at this ⊢
    · rwa [Nat.add_comm (List.countP _ _), ← Nat.add_assoc]
    · exact this

/-- **Every run is closed exactly once**, however it ends and whatever was done before: a run that
returns, fails or unwinds in any stage leaves no record, lowers the flag, is counted, and leaves a
final state that says how it ended. Between two runs no stage is under way, and the analyzer is idle
only before the first one. -/
theorem replay_closed (store : σ) (ids : IdCounter) (ops : List (Operation σ)) :
    ((new store ids).replay ops).Rests (ops.countP (·.isRun)) ∧
      ∀ stages request, let o := ((new store ids).replay ops).analyze stages request
        o.Closed ∧ o.analyzer.finalizations = ops.countP (·.isRun) + 1 ∧
          o.analyzer.state.stage? = none ∧ o.analyzer.state ≠ .idle := by
  have hrests := (rests_new store ids).replay ops
  rw [Nat.zero_add] at hrests
  refine ⟨hrests, fun stages request => ?_⟩
  obtain ⟨hclosed, hcount⟩ := analyze_closed stages ((new store ids).replay ops) request
  rw [hrests.finalizations] at hcount
  exact ⟨hclosed, hcount, RunOutcome.EndsAs.ended hclosed.state⟩

end Analyzer

end LogDigest
