import LogDigest.Proofs.Run.Course
import LogDigest.Proofs.Run.Processing

/-!
# Runs that nobody asks to cancel

The parts of a run without their requests to cancel it (`Stages.unasked`), and the run with its
flag down (`Run.lowered`).

**Requests change nothing but the flag.** Beside the flag an act leaves the same run with the
requests and without them, and it ends in the same way (`Lowers`). There are two exceptions, and
they are the two kinds of looks at the flag: the check while the log is read, and the work on the
records. They are none either if the flag is down whenever somebody looks (`lowers_runUnits`).
-/

namespace LogDigest

variable {σ ε α β : Type}

/-! ## Parts without requests -/

/-- The call without its request. -/
def Call.unasked (call : Call ε α) : Call ε α := { call with cancels := false }

/-- The work without its request. -/
def UnitCall.unasked (call : UnitCall) : UnitCall := { call with cancels := false }

/-- The parser without its requests. -/
def LineParser.unasked (parser : LineParser) : LineParser :=
  { parser with parse := fun line ids =>
      ((parser.parse line ids).1.unasked, (parser.parse line ids).2) }

/-- The steps without those that raise the flag. -/
def Schedule.unasked (steps : Schedule) : Schedule := steps.filter (· ≠ .raise)

/-- The parts of a run without any request to cancel it. -/
def Stages.unasked (stages : Stages σ) : Stages σ where
  read store path := (stages.read store path).unasked
  write store path bytes :=
    ((stages.write store path bytes).1, (stages.write store path bytes).2.unasked)
  log := stages.log
  clock := stages.clock.unasked
  parser := stages.parser.map (·.unasked)
  select settings records := (stages.select settings records).unasked
  pool := stages.pool
  processor r := (stages.processor r).unasked
  schedule workers records := (stages.schedule workers records).unasked
  aggregate records := (stages.aggregate records).unasked
  render summary now := (stages.render summary now).unasked

/-- The parser of a shape asks nothing. -/
theorem Stages.parserFor_unasked (stages : Stages σ) (settings : Settings) :
    stages.unasked.parserFor settings = (stages.parserFor settings).unasked := by
  rw [parserFor, parserFor]
  show (stages.parser.map (·.unasked)).getD _ = _
  cases stages.parser <;> rfl

/-! ## Units that see the flag down -/

namespace Pool

/-- The pool with its flag down. -/
def lowered (p : Pool) : Pool := { p with flag := false }

/-- A step in which nobody sees the flag up does the same with the flag down. -/
theorem step_lowered {units : List UnitCall} {p : Pool} {s : PoolStep}
    (h : ∀ u, p.event? units s ≠ some (.looked u true)) (hs : s ≠ .raise) :
    p.lowered.step (units.map UnitCall.unasked) s = (p.step units s).lowered := by
  cases s with
  | raise => exact absurd rfl hs
  | look u =>
    have hlooked : p.lowered.hasLooked u = p.hasLooked u := rfl
    simp only [step, List.length_map, hlooked]
    by_cases hdue : units.length ≤ u ∨ p.hasLooked u
    · rw [if_pos hdue, if_pos hdue]
    · have hdown : p.flag = false := by
        rw [← Bool.not_eq_true]
        intro hup
        apply h u
        rw [event?, if_neg hdue, hup]
      rw [if_neg hdue, if_neg hdue, hdown]
      rfl
  | run u =>
    have hstarted : p.lowered.started = p.started := rfl
    simp only [step, List.getElem?_map, hstarted]
    split
    · cases units[u]? <;> rfl
    · rfl

theorem foldl_lowered {units : List UnitCall} (steps : Schedule) {p : Pool}
    (h : ∀ u, .looked u true ∉ trace units p steps) :
    (Schedule.unasked steps).foldl (step (units.map UnitCall.unasked)) p.lowered =
      (steps.foldl (step units) p).lowered := by
  induction steps generalizing p with
  | nil => rfl
  | cons s steps ih =>
    have hfirst : ∀ u, p.event? units s ≠ some (.looked u true) := by
      intro u hu
      apply h u
      simp [trace, hu]
    have hrest : ∀ u, .looked u true ∉ trace units (p.step units s) steps := by
      intro u hu
      apply h u
      rw [trace]
      exact List.mem_append_right _ hu
    rw [List.foldl_cons, ← ih hrest, Schedule.unasked]
    by_cases hs : s = .raise
    · subst hs
      rfl
    · rw [List.filter_cons_of_pos (by simpa using hs), List.foldl_cons, step_lowered hfirst hs]
      rfl

/-- Work in which no unit sees the flag up leaves the same pool without the requests. -/
theorem run_lowered {units : List UnitCall} {schedule : Schedule} {flag : Bool}
    (h : ∀ u, .looked u true ∉ history units schedule flag) :
    run (units.map UnitCall.unasked) schedule.unasked false =
      (run units schedule flag).lowered := by
  have hinOrder : (Schedule.inOrder units.length).unasked = Schedule.inOrder units.length := by
    refine List.filter_eq_self.2 fun s hs => ?_
    obtain ⟨u, -, hu⟩ := List.mem_flatMap.1 hs
    rcases List.mem_pair.1 hu with rfl | rfl <;> rfl
  have hsteps : schedule.unasked ++ Schedule.inOrder units.length =
      Schedule.unasked (schedule ++ Schedule.inOrder units.length) := by
    rw [Schedule.unasked, Schedule.unasked, List.filter_append, ← Schedule.unasked,
      ← Schedule.unasked, hinOrder]
  rw [run, run, List.length_map, hsteps, ← foldl_lowered _ h]
  rfl

end Pool

/-- The unit without its request. -/
def WorkUnit.unasked (w : WorkUnit) : WorkUnit := { w with call := w.call.unasked }

/-- Work in which no unit sees the flag up comes to the same without the requests. -/
theorem processUnits_unasked {schedule : Schedule} {flag : Bool} {units : List WorkUnit}
    (h : ∀ u, .looked u true ∉ workHistory units schedule flag) :
    processUnits schedule.unasked false (units.map WorkUnit.unasked) =
      { processUnits schedule flag units with flag := false } := by
  have hcalls : (units.map WorkUnit.unasked).map (·.call) =
      (units.map (·.call)).map UnitCall.unasked := by
    rw [List.map_map, List.map_map]
    rfl
  have hpool : Pool.run ((units.map WorkUnit.unasked).map (·.call)) schedule.unasked false =
      (Pool.run (units.map (·.call)) schedule flag).lowered := by
    rw [hcalls]
    exact Pool.run_lowered h
  have hfailures : ∀ finished, unitFailures finished (units.map WorkUnit.unasked) =
      unitFailures finished units := fun finished => by
    rw [unitFailures_map (g := id) (fun w => by rw [Option.map_id, id]; rfl), List.map_id]
  simp only [processUnits, hpool, hfailures, List.length_map, Pool.lowered]

namespace Run

/-! ## Acts without requests -/

/-- The run with its flag down. -/
def lowered (r : Run σ) : Run σ := { r with flag := false }

/-- The second act does with the flag down what the first one does, but for the flag. -/
def Lowers (act act' : Act σ α) (r : Run σ) : Prop :=
  outcome act' r.lowered = ((outcome act r).1, (outcome act r).2.lowered)

namespace Lowers

variable {r : Run σ}

theorem pure (a : α) : Lowers (pure a : Act σ α) (pure a) r := rfl

theorem fail (stage : Stage) (cause : Cause) :
    Lowers (fail stage cause : Act σ α) (fail stage cause) r := rfl

theorem unwound (message : String) :
    Lowers (throw (.unwound message) : Act σ α) (throw (.unwound message)) r := rfl

theorem modify {f f' : Run σ → Run σ} (h : f' r.lowered = (f r).lowered) :
    Lowers (modify f : Act σ Unit) (modify f') r := by
  rw [Lowers, outcome_modify, outcome_modify, h]

theorem modifyGet {f f' : Run σ → α × Run σ} (h : f' r.lowered = ((f r).1, (f r).2.lowered)) :
    Lowers (modifyGet f : Act σ α) (modifyGet f') r := by
  rw [Lowers, outcome_modifyGet, outcome_modifyGet, h]

theorem bind {x x' : Act σ α} {f f' : α → Act σ β} (hx : Lowers x x' r)
    (hf : ∀ a r', outcome x r = (.ok a, r') → Lowers (f a) (f' a) r') :
    Lowers (x >>= f) (x' >>= f') r := by
  rw [Lowers, outcome_bind, outcome_bind, hx]
  rcases hxr : outcome x r with ⟨stop | a, r'⟩
  · rfl
  · exact hf a r' hxr

/-- Two acts that go on with values of their own. -/
theorem bind_ok {x x' : Act σ α} {f f' : α → Act σ β} {a a' : α} {r' : Run σ}
    (hx : outcome x r = (.ok a, r')) (hx' : outcome x' r.lowered = (.ok a', r'.lowered))
    (hf : Lowers (f a) (f' a') r') : Lowers (x >>= f) (x' >>= f') r := by
  rw [Lowers, outcome_bind_ok hx, outcome_bind_ok hx']
  exact hf

/-- Two acts that go on with what they look up in the run. -/
theorem modifyGet_bind {g g' : Run σ → α × Run σ} {f f' : α → Act σ β}
    (hg : (g' r.lowered).2 = (g r).2.lowered)
    (hf : Lowers (f (g r).1) (f' (g' r.lowered).1) (g r).2) :
    Lowers (MonadState.modifyGet g >>= f) (MonadState.modifyGet g' >>= f') r :=
  bind_ok (outcome_modifyGet ..) (by rw [outcome_modifyGet, hg]) hf

theorem get_bind {f f' : Run σ → Act σ β} (h : Lowers (f r) (f' r.lowered) r) :
    Lowers (get >>= f) (get >>= f') r := h

theorem perform (stages : Stages σ) (stage : Stage) (cause : ε → Cause) (call : Call ε α) :
    Lowers (perform stages stage cause call) (perform stages.unasked stage cause call.unasked)
      r := by
  rw [Lowers, outcome_perform, outcome_perform]
  rfl

theorem log (stages : Stages σ) (events : List Event) :
    Lowers (log stages events) (log stages.unasked events) r := .modify rfl

theorem enter (stages : Stages σ) (stage : Stage) :
    Lowers (enter stages stage) (enter stages.unasked stage) r := .modify rfl

end Lowers

section Parts

variable (stages : Stages σ) (r : Run σ)

theorem lowers_validate (request : Request) :
    Lowers (validate stages request) (validate stages.unasked request) r := by
  rw [validate, validate]
  split
  · exact .fail _ _
  · exact (Lowers.log ..).bind fun _ _ _ => .pure _

theorem lowers_checkPath (source : Path) :
    Lowers (checkPath source : Act σ Unit) (checkPath source) r := by
  unfold checkPath
  split
  · exact .fail _ _
  · exact .pure _

theorem lowers_checkFlag (h : r.flag = false) : Lowers (checkFlag : Act σ Unit) checkFlag r := by
  have hsame : r.lowered = r := by
    rw [lowered, ← h]
  rw [Lowers, checkFlag, outcome_bind_ok (outcome_get _), outcome_bind_ok (outcome_get _), h]
  rfl

theorem lowers_readText (source : Path) :
    Lowers (readText stages source) (readText stages.unasked source) r :=
  .modifyGet_bind rfl (.perform ..)

theorem lowers_readLines (parser : LineParser) (number : Nat) (pending : List Event)
    (all : List (List Char)) :
    Lowers (readLines stages parser number pending all)
      (readLines stages.unasked parser.unasked number pending all) r := by
  induction all generalizing number pending r with
  | nil => exact (Lowers.log ..).bind fun _ _ _ => .pure _
  | cons line all ih =>
    rw [readLines, readLines]
    rcases hparse : parser.parse line r.ids with ⟨call, ids⟩
    have hparse' : parser.unasked.parse line r.lowered.ids = (call.unasked, ids) := by
      show ((parser.parse line r.ids).1.unasked, (parser.parse line r.ids).2) = _
      rw [hparse]
    have hlook : outcome (parseLine parser line) r =
        (.ok call, { r with ids, flag := r.flag || call.cancels }) := by
      rw [parseLine, outcome_modifyGet, hparse]
    have hlook' : outcome (parseLine parser.unasked line) r.lowered =
        (.ok call.unasked, { r with ids, flag := false }) := by
      rw [parseLine, outcome_modifyGet, hparse']
      rfl
    refine .bind_ok hlook hlook' ?_
    have hresult : call.unasked.result = call.result := rfl
    have hevents : call.unasked.events = call.events := rfl
    simp only [hresult, hevents]
    split
    · exact (ih _ _ _).bind fun _ _ _ => .pure _
    · exact ih _ _ _
    · contradiction
    · exact (Lowers.log ..).bind fun _ _ _ => .unwound _

theorem lowers_readRecords (source : Path) (parser : LineParser) (all : List (List Char)) :
    Lowers (readRecords stages source parser all)
      (readRecords stages.unasked source parser.unasked all) r :=
  (lowers_readLines stages r parser 1 [] all).bind fun _ _ _ =>
    (Lowers.log ..).bind fun _ _ _ => .modify rfl

theorem lowers_selectRecords (selection : FilterSettings) :
    Lowers (selectRecords stages selection) (selectRecords stages.unasked selection) r :=
  Lowers.bind (.modifyGet rfl) fun _ _ _ => (Lowers.perform ..).bind fun _ _ _ => .modify rfl

theorem lowers_startWorkers (workers : Nat) :
    Lowers (startWorkers stages workers) (startWorkers stages.unasked workers) r := by
  have hpool : stages.unasked.pool = stages.pool := rfl
  unfold startWorkers
  rw [hpool]
  split
  · exact .pure _
  · exact .fail _ _

theorem lowers_settle (result : Except ProcessError Nat) :
    Lowers (settle result : Act σ Unit) (settle result) r := by
  cases result with
  | ok n => exact .pure _
  | error e => exact .fail _ _

/-- The work on the records of a run, unit by unit. -/
def unitsOf : List WorkUnit :=
  r.records.map fun record => { record, call := stages.processor record }

/-- Work in which no unit sees the flag up leaves the same run without the requests. -/
theorem lowers_runUnits (workers : Nat)
    (h : ∀ u, .looked u true ∉
      workHistory (unitsOf stages r) (stages.schedule workers r.records) r.flag) :
    Lowers (runUnits stages workers) (runUnits stages.unasked workers) r := by
  have hunits : unitsOf stages.unasked r.lowered = (unitsOf stages r).map WorkUnit.unasked := by
    rw [unitsOf, unitsOf, List.map_map]
    rfl
  have hall : processAll stages.unasked.processor (stages.unasked.schedule workers r.records) false
        r.records =
      { processAll stages.processor (stages.schedule workers r.records) r.flag r.records with
        flag := false } := by
    have hwork := processUnits_unasked h
    rw [← hunits] at hwork
    exact hwork
  refine .modifyGet ?_
  simp only [lowered, hall]
  rfl

theorem lowers_makeReport : Lowers (makeReport stages) (makeReport stages.unasked) r :=
  .get_bind ((Lowers.perform ..).bind fun _ _ _ => (Lowers.perform ..).bind fun _ _ _ =>
    (Lowers.perform ..).bind fun _ _ _ => .pure _)

theorem lowers_renderExport (exportTo : Option Path) :
    Lowers (renderExport stages exportTo) (renderExport stages.unasked exportTo) r := by
  cases exportTo with
  | none => exact .pure _
  | some path =>
    refine .get_bind ?_
    have hrecords : r.lowered.records = r.records := rfl
    simp only [hrecords]
    cases exportFor path r.records with
    | error e => exact .fail _ _
    | ok bytes => exact (Lowers.log ..).bind fun _ _ _ => .pure _

theorem lowers_writeFile (cause : IoError → Cause) (path : Path) (bytes : List UInt8) :
    Lowers (writeFile stages cause path bytes) (writeFile stages.unasked cause path bytes) r :=
  .modifyGet_bind rfl (.perform ..)

theorem lowers_save (f : Findings) : Lowers (save stages f) (save stages.unasked f) r := by
  have hreport : Lowers (saveReport stages f.settings.output f.report)
      (saveReport stages.unasked f.settings.output f.report) r :=
    (lowers_writeFile ..).bind fun _ _ _ => .log ..
  refine hreport.bind fun _ r₁ _ => ?_
  have hexport :
      Lowers (saveExport stages f.exported) (saveExport stages.unasked f.exported) r₁ := by
    cases f.exported with
    | none => exact .pure _
    | some w =>
      exact (lowers_writeFile stages r₁ _ w.1 w.2).bind fun _ _ _ => .get_bind (.log ..)
  exact hexport.bind fun _ _ _ => .pure _

theorem lowers_untilFound (settings : Settings) :
    Lowers (untilFound stages settings) (untilFound stages.unasked settings) r :=
  (Lowers.enter ..).bind fun _ r₁ _ => (lowers_makeReport stages r₁).bind fun _ _ _ =>
    (Lowers.enter ..).bind fun _ r₃ _ => (lowers_renderExport stages r₃ _).bind fun _ _ _ =>
      .get_bind (.pure _)

theorem lowers_untilFirstLook (request : Request) :
    Lowers (untilFirstLook stages request) (untilFirstLook stages.unasked request) r :=
  (Lowers.enter ..).bind fun _ r₁ _ => (lowers_validate stages r₁ _).bind fun _ _ _ =>
    (lowers_checkPath _ _).bind fun _ _ _ => .pure _

end Parts

end Run

end LogDigest
