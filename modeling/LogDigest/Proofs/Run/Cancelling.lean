import LogDigest.Proofs.Run.Closing
import LogDigest.Proofs.Run.Requests
import LogDigest.Proofs.Run.Standard
import LogDigest.Proofs.Run.Unasked

/-!
# What becomes of requests to cancel

A request to cancel raises the flag, and nothing lowers it before the run is closed. A run looks
at the flag before it reads the log, after it has read it, and once for each unit of work
(`looks`).

**A request is seen by the looks that follow it.** What a look sees is whether somebody asked before
it: before the run, while the log is read, on a line, while records are selected, or during the
work.

**A request that somebody sees is obeyed** (`analyze_heeds`). A run in which a look sees the flag
up fails, and says that it was cancelled. So a request is obeyed if a look follows it: one that
was made before the run, or while the log was read, or before the work began if there is a record
to work on, or during the work if there is a unit that has not looked.

**A request that nobody sees comes too late.** It changes nothing: the run is the one that nobody
asked to cancel. When the run is closed the flag goes down, so the next run does not see it either
(`analyze_lateRequest`).
-/

namespace LogDigest

variable {σ α β : Type}

/-- Whether the cause is that somebody asked to cancel. -/
def Cause.isCancelled : Cause → Bool
  | source .cancelled | process (.cancelled ..) => true
  | config _ | source .missingPath | source (.io ..) | filter _ | process (.unitFailures _)
  | process (.threadPool ..) | sink _ | exported _ => false

/-- What a unit sees, if it looks at the flag. -/
def PoolEvent.seen? : PoolEvent → Option Bool
  | looked _ up => some up
  | ran _ => none

theorem PoolEvent.true_mem_filterMap_seen? {trace : List PoolEvent} :
    true ∈ trace.filterMap seen? ↔ ∃ u, .looked u true ∈ trace := by
  rw [List.mem_filterMap]
  constructor
  · rintro ⟨e, he, h⟩
    cases e with
    | looked u up => cases h; exact ⟨u, he⟩
    | ran u => cases h
  · rintro ⟨u, hu⟩
    exact ⟨_, hu, rfl⟩

namespace Run

/-! ## Looks at the flag -/

/-- What somebody sees who looks at the flag behind the act, if it comes to its end. -/
def flagBehind (act : Act σ α) (r : Run σ) : List Bool :=
  match outcome act r with
  | (.ok _, r') => [r'.flag]
  | (.error _, _) => []

/-- What happens in the work on the records of a run. -/
def workOf (stages : Stages σ) (settings : Settings) (r : Run σ) : List PoolEvent :=
  workHistory (unitsOf stages r) (stages.schedule settings.workers r.records) r.flag

/-- What a run sees whenever it looks at the flag. -/
def looks (stages : Stages σ) (request : Request) (r : Run σ) : List Bool :=
  flagBehind (untilFirstLook stages request) r ++
    (flagBehind (untilSecondLook stages request) r ++
      match outcome (untilWork stages request) r with
      | (.ok settings, r') => (workOf stages settings r').filterMap PoolEvent.seen?
      | (.error _, _) => [])

theorem flagBehind_ok {act : Act σ α} {r r' : Run σ} {a : α} (h : outcome act r = (.ok a, r')) :
    flagBehind act r = [r'.flag] := by
  rw [flagBehind, h]

theorem flagBehind_error {act : Act σ α} {r r' : Run σ} {stop : Stop}
    (h : outcome act r = (.error stop, r')) : flagBehind act r = [] := by
  rw [flagBehind, h]

/-! ## Requests that somebody sees -/

/-- The run fails because somebody asked to cancel it. -/
def Cancelled : Except Stop α × Run σ → Prop
  | (.error (.failed e), _) => e.cause.isCancelled = true
  | _ => False

theorem Cancelled.bind {x : Act σ α} {r : Run σ} (h : Cancelled (outcome x r)) (f : α → Act σ β) :
    Cancelled (outcome (x >>= f) r) := by
  rw [outcome_bind]
  rcases hx : outcome x r with ⟨(e | message) | a, r'⟩ <;> rw [hx] at h
  · exact h
  · exact h.elim
  · exact h.elim

theorem cancelled_checkFlag_bind {r : Run σ} (h : r.flag = true) (f : Unit → Act σ α) :
    Cancelled (outcome (checkFlag >>= f) r) := by
  refine Cancelled.bind ?_ f
  rw [checkFlag, outcome_bind_ok (outcome_get r), h]
  rfl

theorem cancelled_untilSecondLook {stages : Stages σ} {request : Request} {r r' : Run σ}
    {settings : Settings} (h : outcome (untilFirstLook stages request) r = (.ok settings, r'))
    (hup : r'.flag = true) : Cancelled (outcome (untilSecondLook stages request) r) := by
  rw [untilSecondLook, outcome_bind_ok h]
  exact cancelled_checkFlag_bind hup _

theorem cancelled_untilWork {stages : Stages σ} {request : Request} {r r' : Run σ}
    {found : Settings × List Char}
    (h : outcome (untilSecondLook stages request) r = (.ok found, r')) (hup : r'.flag = true) :
    Cancelled (outcome (untilWork stages request) r) := by
  rw [untilWork, outcome_bind_ok h]
  exact cancelled_checkFlag_bind hup _

theorem cancelled_untilSaving {stages : Stages σ} {request : Request} {r r' : Run σ}
    {settings : Settings} (h : outcome (untilWork stages request) r = (.ok settings, r'))
    (hup : ∃ u, .looked u true ∈ workOf stages settings r') :
    Cancelled (outcome (untilSaving stages request) r) := by
  obtain ⟨-, hresult⟩ := processUnits_result_of_looked_up _ _ _ hup
  have hrun : outcome (runUnits stages settings.workers) r' =
      (.ok (processUnits (stages.schedule settings.workers r'.records) r'.flag
        (unitsOf stages r')).result, (outcome (runUnits stages settings.workers) r').2) := rfl
  rw [hresult] at hrun
  rw [untilSaving, outcome_bind_ok h, outcome_bind_ok hrun]
  have hsettle : ∀ completed total r'', Cancelled (outcome (settle
      (.error (.cancelled completed total)) : Act σ Unit) r'') := fun _ _ _ => rfl
  exact (hsettle _ _ _).bind _

/-- A run in which a look sees the flag up is cancelled. -/
theorem cancelled_of_looks {stages : Stages σ} {request : Request} {r : Run σ}
    (h : true ∈ looks stages request r) : Cancelled (outcome (stagesInOrder stages request) r) := by
  rw [stagesInOrder_eq_save]
  refine Cancelled.bind ?_ _
  rw [looks, List.mem_append, List.mem_append] at h
  rcases h with h | h | h
  · rcases hfirst : outcome (untilFirstLook stages request) r with ⟨stop | settings, r₁⟩
    · rw [flagBehind_error hfirst] at h
      cases h
    · rw [flagBehind_ok hfirst, List.mem_singleton] at h
      have hsecond : Cancelled (outcome (untilSecondLook stages request) r) :=
        cancelled_untilSecondLook hfirst h.symm
      have hwork : Cancelled (outcome (untilWork stages request) r) := hsecond.bind _
      exact hwork.bind _
  · rcases hsecond : outcome (untilSecondLook stages request) r with ⟨stop | found, r₂⟩
    · rw [flagBehind_error hsecond] at h
      cases h
    · rw [flagBehind_ok hsecond, List.mem_singleton] at h
      have hwork : Cancelled (outcome (untilWork stages request) r) :=
        cancelled_untilWork hsecond h.symm
      exact hwork.bind _
  · rcases hwork : outcome (untilWork stages request) r with ⟨stop | settings, r₃⟩ <;>
      rw [hwork] at h
    · cases h
    · exact cancelled_untilSaving hwork (PoolEvent.true_mem_filterMap_seen?.1 h)

/-! ## Requests that nobody sees -/

/-- A run in which every look sees the flag down is the same without the requests. -/
theorem lowers_stagesInOrder {stages : Stages σ} {request : Request} {r : Run σ}
    (h : true ∉ looks stages request r) :
    Lowers (stagesInOrder stages request) (stagesInOrder stages.unasked request) r := by
  rw [looks, List.mem_append, List.mem_append, not_or, not_or] at h
  obtain ⟨hfirst, hsecond, hunits⟩ := h
  have hdown : ∀ {γ : Type} {act : Act σ γ} {r r' : Run σ} {a : γ}, true ∉ flagBehind act r →
      outcome act r = (.ok a, r') → r'.flag = false := by
    intro γ act r r' a h hact
    rw [flagBehind_ok hact, List.mem_singleton] at h
    simpa using h
  have hlook₂ :
      Lowers (untilSecondLook stages request) (untilSecondLook stages.unasked request) r :=
    (lowers_untilFirstLook stages r request).bind fun settings r₁ h₁ =>
      (lowers_checkFlag r₁ (hdown hfirst h₁)).bind fun _ r₂ _ =>
        (lowers_readText stages r₂ _).bind fun _ _ _ => .pure _
  have hwork : Lowers (untilWork stages request) (untilWork stages.unasked request) r := by
    refine hlook₂.bind fun found r₂ h₂ => ?_
    refine (lowers_checkFlag r₂ (hdown hsecond h₂)).bind fun _ r₃ _ => ?_
    rw [Stages.parserFor_unasked]
    exact (lowers_readRecords stages r₃ _ _ _).bind fun _ _ _ => (Lowers.enter ..).bind fun _ _ _ =>
      (lowers_selectRecords ..).bind fun _ _ _ => (Lowers.enter ..).bind fun _ _ _ =>
      (lowers_startWorkers ..).bind fun _ _ _ => .pure _
  have hsaving : Lowers (untilSaving stages request) (untilSaving stages.unasked request) r := by
    refine hwork.bind fun settings r₃ h₃ => ?_
    rw [h₃] at hunits
    dsimp only at hunits
    rw [PoolEvent.true_mem_filterMap_seen?, not_exists] at hunits
    exact (lowers_runUnits stages r₃ _ hunits).bind fun _ _ _ =>
      (lowers_settle ..).bind fun _ _ _ => lowers_untilFound ..
  rw [stagesInOrder_eq_save, stagesInOrder_eq_save]
  exact hsaving.bind fun f r' _ => lowers_save stages r' f

theorem conclude_lowered (stages : Stages σ) (r : Run σ) (result : Except Stop Report) :
    conclude stages.unasked r.lowered result = (conclude stages r result).lowered := by
  rcases result with (e | message) | report
  case error.unwound =>
    have hstate : r.lowered.state = r.state := rfl
    simp only [conclude, hstate]
    split <;> rfl
  all_goals rfl

/-! ## Requests that a look follows -/

theorem map_call_unitsOf (stages : Stages σ) (r : Run σ) :
    (unitsOf stages r).map (·.call) = r.records.map stages.processor := by
  simp [unitsOf]

/-- A request that is made before some unit has looked is seen. -/
theorem looked_up_of_askedIn {stages : Stages σ} {settings : Settings} {r : Run σ}
    {before after : Schedule}
    (hsteps : stages.schedule settings.workers r.records ++ Schedule.inOrder r.records.length =
      before ++ after)
    (hasked : Pool.AskedIn (r.records.map stages.processor) r.flag before)
    (hnew : ∃ u < r.records.length, ∀ up,
      .looked u up ∉ Pool.trace (r.records.map stages.processor) { flag := r.flag } before) :
    ∃ u, .looked u true ∈ workOf stages settings r := by
  obtain ⟨u, hu, hnew⟩ := hnew
  refine ⟨u, ?_⟩
  rw [workOf, workHistory, map_call_unitsOf]
  have hlength : (r.records.map stages.processor).length = r.records.length := List.length_map _
  exact Pool.looked_up_of_asked (by rw [hlength, hsteps]) hasked (hlength ▸ hu) hnew

theorem exists_of_outcome_bind_ok {x : Act σ α} {f : α → Act σ β} {r r'' : Run σ} {b : β}
    (h : outcome (x >>= f) r = (.ok b, r'')) :
    ∃ a r', outcome x r = (.ok a, r') ∧ outcome (f a) r' = (.ok b, r'') := by
  rw [outcome_bind] at h
  rcases hx : outcome x r with ⟨stop | a, r'⟩ <;> rw [hx] at h
  · cases h
  · exact ⟨a, r', rfl, h⟩

/-- A run that ends well came by every look. -/
theorem comes_by_looks {stages : Stages σ} {request : Request} {r r' : Run σ} {report : Report}
    (h : outcome (stagesInOrder stages request) r = (.ok report, r')) :
    (∃ settings r₁, outcome (untilFirstLook stages request) r = (.ok settings, r₁)) ∧
      ∃ found r₂, outcome (untilSecondLook stages request) r = (.ok found, r₂) := by
  rw [stagesInOrder_eq_save] at h
  obtain ⟨f, r₄, hsaving, -⟩ := exists_of_outcome_bind_ok h
  obtain ⟨settings, r₃, hwork, -⟩ := exists_of_outcome_bind_ok hsaving
  obtain ⟨found, r₂, hsecond, -⟩ := exists_of_outcome_bind_ok hwork
  obtain ⟨first, r₁, hfirst, -⟩ := exists_of_outcome_bind_ok hsecond
  exact ⟨⟨first, r₁, hfirst⟩, found, r₂, hsecond⟩

end Run

open Run

/-- The run failed because somebody asked to cancel it. -/
def RunOutcome.IsCancelled (o : RunOutcome σ) : Prop :=
  ∃ e, o.result = .error (.failed e) ∧ e.cause.isCancelled = true

/-- What becomes of requests to cancel the next run of an analyzer. -/
structure Analyzer.Heeds (stages : Stages σ) (a : Analyzer σ) (request : Request) : Prop where
  /-- The first look sees whether somebody asked before the run. -/
  firstLook : ∀ settings r,
    outcome (untilFirstLook stages request) (begin stages a request.source) = (.ok settings, r) →
      r.flag = a.flag
  /-- The second look sees besides whether somebody asked while the log was read. -/
  secondLook : ∀ settings r found r',
    outcome (untilFirstLook stages request) (begin stages a request.source) = (.ok settings, r) →
    outcome (untilSecondLook stages request) (begin stages a request.source) = (.ok found, r') →
      r'.flag = (r.flag || (stages.read r.store request.source).cancels)
  /-- The work sees besides whether somebody asked on a line or while records were selected. -/
  workBegins : ∀ found r settings r',
    outcome (untilSecondLook stages request) (begin stages a request.source) = (.ok found, r) →
    outcome (untilWork stages request) (begin stages a request.source) = (.ok settings, r') →
      r'.flag = (r.flag || asksInBetween stages found.1 found.2 r.ids)
  /-- A run in which a look sees the flag up fails because it was cancelled. -/
  seen : true ∈ looks stages request (begin stages a request.source) →
    (a.analyze stages request).IsCancelled
  /-- A run in which every look sees it down is the same without the requests. -/
  unseen : true ∉ looks stages request (begin stages a request.source) →
    a.analyze stages request = { a with flag := false }.analyze stages.unasked request
  /-- With a request before the run it does not end well. -/
  before : a.flag = true → ∀ report, (a.analyze stages request).result ≠ .ok report
  /-- Nor with one while the log is read. -/
  reading : ∀ settings r,
    outcome (untilFirstLook stages request) (begin stages a request.source) = (.ok settings, r) →
      (stages.read r.store request.source).cancels = true →
        ∀ report, (a.analyze stages request).result ≠ .ok report
  /-- With a request on a line or while records are selected it is cancelled, if there is a record
  to work on. -/
  inBetween : ∀ found r settings r',
    outcome (untilSecondLook stages request) (begin stages a request.source) = (.ok found, r) →
    outcome (untilWork stages request) (begin stages a request.source) = (.ok settings, r') →
      asksInBetween stages found.1 found.2 r.ids = true → r'.records ≠ [] →
        (a.analyze stages request).IsCancelled
  /-- With a request before the work or during it, from outside or in a unit, it is cancelled, if
  some unit has not looked by then. -/
  working : ∀ settings r first rest,
    outcome (untilWork stages request) (begin stages a request.source) = (.ok settings, r) →
    stages.schedule settings.workers r.records ++ Schedule.inOrder r.records.length =
        first ++ rest →
      Pool.AskedIn (r.records.map stages.processor) r.flag first →
      (∃ u < r.records.length, ∀ up,
        .looked u up ∉ Pool.trace (r.records.map stages.processor) { flag := r.flag } first) →
        (a.analyze stages request).IsCancelled
  /-- Behind the run the flag is down. -/
  closed : (a.analyze stages request).analyzer.flag = false

namespace Analyzer

section Seen

variable {stages : Stages σ} {a : Analyzer σ} {request : Request}

theorem isCancelled_of_looks (h : true ∈ looks stages request (begin stages a request.source)) :
    (a.analyze stages request).IsCancelled := by
  have hcancelled := cancelled_of_looks h
  have hresult : (a.analyze stages request).result =
      (outcome (stagesInOrder stages request) (begin stages a request.source)).1 := rfl
  rw [RunOutcome.IsCancelled, hresult]
  rcases houtcome : outcome (stagesInOrder stages request) (begin stages a request.source) with
    ⟨(e | message) | report, r⟩ <;> rw [houtcome] at hcancelled
  · exact ⟨e, rfl, hcancelled⟩
  · exact hcancelled.elim
  · exact hcancelled.elim

/-- Whoever ends well has looked, so it is enough that a look that was taken saw the flag up. -/
theorem result_ne_ok_of_looks
    (h : (∃ settings r, outcome (untilFirstLook stages request)
        (begin stages a request.source) = (.ok settings, r)) →
      (∃ found r, outcome (untilSecondLook stages request)
        (begin stages a request.source) = (.ok found, r)) →
      true ∈ looks stages request (begin stages a request.source)) (report : Report) :
    (a.analyze stages request).result ≠ .ok report := by
  intro hok
  have hresult : (a.analyze stages request).result =
      (outcome (stagesInOrder stages request) (begin stages a request.source)).1 := rfl
  have hrun : outcome (stagesInOrder stages request) (begin stages a request.source) =
      (.ok report, _) := Prod.ext (hresult.symm.trans hok) rfl
  obtain ⟨hfirst, hsecond⟩ := comes_by_looks hrun
  obtain ⟨e, he, -⟩ := isCancelled_of_looks (h hfirst hsecond)
  rw [hok] at he
  cases he

/-- A run in which a unit sees the flag up is cancelled. -/
theorem isCancelled_of_work {settings : Settings} {r : Run σ}
    (hwork : outcome (untilWork stages request) (begin stages a request.source) =
      (.ok settings, r)) (h : ∃ u, .looked u true ∈ workOf stages settings r) :
    (a.analyze stages request).IsCancelled := by
  apply isCancelled_of_looks
  rw [looks, hwork]
  exact List.mem_append_right _
    (List.mem_append_right _ (PoolEvent.true_mem_filterMap_seen?.2 h))

end Seen

/-- **A request to cancel is obeyed if a look at the flag follows it**, and otherwise it comes too
late: it changes nothing in the run, and the flag goes down when the run is closed. -/
theorem analyze_heeds (stages : Stages σ) (a : Analyzer σ) (request : Request) :
    Heeds stages a request where
  firstLook settings r h := (keeps_flag_untilFirstLook stages request).brings _ settings r h
  secondLook _ _ _ _ h₁ h₂ := flag_untilSecondLook h₁ h₂
  workBegins _ _ _ _ h₂ h₃ := flag_untilWork h₂ h₃
  seen := isCancelled_of_looks
  unseen h := by
    have hlowers := lowers_stagesInOrder h
    have hlow : begin stages.unasked { a with flag := false } request.source =
        (begin stages a request.source).lowered := rfl
    simp only [analyze, hlow]
    rw [hlowers, conclude_lowered]
    rfl
  before hup := result_ne_ok_of_looks fun ⟨settings, r, h₁⟩ _ => by
    have hflag : r.flag = a.flag :=
      (keeps_flag_untilFirstLook stages request).brings _ settings r h₁
    rw [looks, flagBehind_ok h₁, hflag, hup]
    exact List.mem_cons_self
  reading settings r h₁ hasks := result_ne_ok_of_looks fun _ ⟨found, r', h₂⟩ => by
    rw [looks, flagBehind_ok h₂, flag_untilSecondLook h₁ h₂, hasks, Bool.or_true]
    exact List.mem_append_right _ List.mem_cons_self
  inBetween found r settings r' h₂ h₃ hasks hrecords := by
    apply isCancelled_of_work h₃
    -- No unit has looked before the first step of the work.
    refine looked_up_of_askedIn (List.nil_append _).symm (.inl ?_)
      ⟨0, List.length_pos_iff.2 hrecords, fun _ => List.not_mem_nil⟩
    rw [flag_untilWork h₂ h₃, hasks, Bool.or_true]
  working settings r first rest h₃ hsteps hasked hnew :=
    isCancelled_of_work h₃ (looked_up_of_askedIn hsteps hasked hnew)
  closed := rfl

/-- A request before the run is obeyed, and so is one from outside before the only unit looks. -/
theorem analyze_heeds_earlyRequest :
    let a : Analyzer Memory := { new oneLine {} with flag := true }
    let stages := Stages.scheduled newYear fun _ _ => [.raise]
    true ∈ looks (.inMemory newYear) exporting (begin (.inMemory newYear) a exporting.source) ∧
      (a.analyze (.inMemory newYear) exporting).IsCancelled ∧
      ((new oneLine {}).analyze stages exporting).IsCancelled := by
  intro a stages
  have hlooks : true ∈ looks (.inMemory newYear) exporting
      (begin (.inMemory newYear) a exporting.source) := by
    decide +kernel
  refine ⟨hlooks, (analyze_heeds (.inMemory newYear) a exporting).seen hlooks, ?_⟩
  have hready : (outcome (untilWork stages exporting)
      (begin stages (new oneLine {}) exporting.source)).1.isOk = true ∧
      (outcome (untilWork stages exporting)
        (begin stages (new oneLine {}) exporting.source)).2.records.length = 1 := by decide +kernel
  rcases hwork : outcome (untilWork stages exporting)
    (begin stages (new oneLine {}) exporting.source) with ⟨stop | settings, r⟩ <;>
    rw [hwork] at hready
  · cases hready.1
  · exact (analyze_heeds stages (new oneLine {}) exporting).working settings r [.raise] _ hwork rfl
      (.inr (.inl List.mem_cons_self)) ⟨0, by rw [hready.2]; exact Nat.one_pos, nofun⟩

/-- A request of the last unit of work is made during a run that ends well all the same, and the
next run ends well too. -/
theorem analyze_lateRequest :
    let stages : Stages Memory :=
      { Stages.inMemory newYear with processor := fun _ => { cancels := true } }
    let o := (new oneLine {}).analyze stages exporting
    (outcome (stagesInOrder stages exporting)
        (begin stages (new oneLine {}) exporting.source)).2.flag = true ∧
      o.analyzer.state = .done ∧ o.analyzer.flag = false ∧
      (o.analyzer.analyze stages exporting).analyzer.state = .done := by
  decide +kernel

end Analyzer

end LogDigest
