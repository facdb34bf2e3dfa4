import LogDigest.Proofs.Run.Closing
import LogDigest.Proofs.Run.Course
import LogDigest.Proofs.Run.Returns

/-!
# Failures name the stage that was active

Whatever the parts of a run do, and whenever somebody asks to cancel it, the run enters the stages
in their order, and a failure names the stage that was entered last and has a cause of that stage
(`Analyzer.analyze_attributes`).

**Stages.** A run ends in place (`Run.stagesInOrder_endsInPlace`): in the stage that it entered
last, after the stages before it. Concluding and closing a run enter no stage.

**The source.** Three things may keep a run from its source: settings that are not valid, an empty
path, and a raised flag, and they are looked at in this order (`Request.obstacle?`). Then the run
fails without a read (`Run.stopsAt_untilRead`). Otherwise it reads the source once, because nothing
behind the reading of the text reads again (`Run.reads_sinceRead`).
-/

namespace LogDigest

/-- What keeps a run from reading its source, if anything does. -/
def Request.obstacle? (request : Request) (flag : Bool) : Option Cause :=
  match request.choices.validate with
  | .error e => some (.config e)
  | .ok _ =>
    if request.source.isEmpty then some (.source .missingPath)
    else if flag then some (.source .cancelled)
    else none

/-- A run reads its source if its settings are valid, its path is not empty and the flag is down. -/
theorem Request.obstacle?_eq_none_iff {request : Request} {flag : Bool} :
    request.obstacle? flag = none ↔
      (∃ settings, request.choices.validate = .ok settings) ∧ request.source.isEmpty = false ∧
        flag = false := by
  unfold obstacle?
  cases request.choices.validate with
  | error e => simp
  | ok settings => cases request.source.isEmpty <;> cases flag <;> simp

/-! ## Stages -/

theorem Stage.upTo_isPrefix (s : Stage) : s.upTo <+: Stage.all := by
  cases s <;> decide

/-- No cause belongs to reporting, where nothing can fail. -/
theorem Cause.stage_ne_reporting (c : Cause) : c.stage ≠ .reporting := by
  cases c <;> exact nofun

/-- The run entered the stages in their order and ended in the last one, which a failure names and
from which its cause comes. -/
structure RunOutcome.Attributed {σ : Type} (o : RunOutcome σ) : Prop where
  inOrder : o.journal.entered <+: Stage.all.map .active
  /-- A run that comes to its end entered all stages. -/
  ok : ∀ report, o.result = .ok report → o.journal.entered = Stage.all.map .active
  failed : ∀ e, o.result = .error (.failed e) →
    o.journal.entered.getLast? = some (.active e.stage) ∧ e.cause.stage = e.stage ∧
      e.stage ≠ .reporting
  /-- After unwinding the analyzer shows the last stage as failed. -/
  unwound : ∀ message, o.result = .error (.unwound message) →
    ∃ s, o.journal.entered.getLast? = some (.active s) ∧ o.analyzer.state = .failed s

/-- The settings, the path and the flag are looked at before the source is read. -/
structure RunOutcome.ReadsBehindChecks {σ : Type} (o : RunOutcome σ) (request : Request)
    (flag : Bool) : Prop where
  refused : ∀ cause, request.obstacle? flag = some cause →
    o.result = .error (.failed { stage := .reading, cause }) ∧ o.journal.reads = []
  read : request.obstacle? flag = none → o.journal.reads = [request.source]

namespace Run

variable {σ α β γ : Type} {stages : Stages σ} {r : Run σ}

theorem EndsInPlace.exists_entered {closed : Nat} {among : List Stage}
    {o : Except Stop α × Run σ} (h : EndsInPlace closed among o) :
    ∃ s : Stage, o.2.journal.entered = s.upTo.map .active := by
  rcases o with ⟨(e | message) | a, r⟩
  · exact ⟨e.stage, congrArg (·.2.1) h.2.1⟩
  · obtain ⟨s, -, hplace⟩ := h
    exact ⟨s, congrArg (·.2.1) hplace⟩
  · exact ⟨.persisting, congrArg (·.2.1) h⟩

/-! ## The source -/

/-- The run until it reads. -/
def untilRead (stages : Stages σ) (request : Request) : Act σ Settings := do
  let settings ← untilFirstLook stages request
  checkFlag
  return settings

/-- The run from there on. -/
def sinceRead (stages : Stages σ) (request : Request) (settings : Settings) : Act σ Report := do
  let text ← readText stages request.source
  checkFlag
  readRecords stages request.source (stages.parserFor settings) (Text.lines text)
  laterStages stages settings

theorem stagesInOrder_eq_sinceRead (stages : Stages σ) (request : Request) :
    stagesInOrder stages request = untilRead stages request >>= sinceRead stages request := by
  simp only [stagesInOrder, readStage, readSource, untilRead, untilFirstLook, sinceRead,
    Stages.parserFor, bind_assoc, pure_bind]

def readSoFar (r : Run σ) : List Path := r.journal.reads

theorem Inside.keeps_reads {stage : Stage} {act : Act σ α} (h : Inside stage act)
    (hstage : stage ≠ .reading) : Keeps readSoFar act :=
  fun r => (h.stays r).reads hstage

theorem keeps_reads_enter (stage : Stage) : Keeps readSoFar (enter stages stage) :=
  .modify fun _ => rfl

theorem keeps_reads_laterStages (settings : Settings) :
    Keeps readSoFar (laterStages stages settings) :=
  (keeps_reads_enter _).bind fun _ =>
    ((inside_selectRecords ..).keeps_reads (by decide)).bind fun _ =>
    (keeps_reads_enter _).bind fun _ =>
    ((inside_processRecords ..).keeps_reads (by decide)).bind fun _ =>
    (keeps_reads_enter _).bind fun _ =>
    ((inside_makeReport ..).keeps_reads (by decide)).bind fun _ =>
    (keeps_reads_enter _).bind fun _ =>
    ((inside_persist ..).keeps_reads (by decide)).bind fun _ => .pure _

theorem keeps_reads_readRecords (source : Path) (parser : LineParser) (all : List (List Char)) :
    Keeps readSoFar (readRecords stages source parser all) :=
  (keeps_readLines (fun _ _ => rfl) (fun _ _ => rfl) (fun _ _ => rfl) _ _ _ _).bind fun _ =>
    (keeps_log (fun _ _ => rfl) _).bind fun _ => .modify fun _ => rfl

theorem keeps_reads_untilRead (request : Request) : Keeps readSoFar (untilRead stages request) :=
  .bind
    ((keeps_reads_enter _).bind fun _ => (keeps_validate (fun _ _ => rfl) _).bind fun _ =>
      (keeps_checkPath _).bind fun _ => .pure _)
    fun _ => keeps_checkFlag.bind fun _ => .pure _

theorem reads_sinceRead (request : Request) (settings : Settings) (r : Run σ) :
    readSoFar (outcome (sinceRead stages request settings) r).2 =
      readSoFar r ++ [request.source] := by
  have hbehind : ∀ call : Call IoError (List Char), Keeps readSoFar (do
      let text ← perform stages .reading (fun e => .source (.io request.source e)) call
      checkFlag
      readRecords stages request.source (stages.parserFor settings) (Text.lines text)
      laterStages stages settings) := fun call =>
    (keeps_perform (fun _ _ => rfl) (fun _ _ => rfl) _ _ _).bind fun _ =>
      keeps_checkFlag.bind fun _ => (keeps_reads_readRecords _ _ _).bind fun _ =>
      keeps_reads_laterStages settings
  rw [sinceRead, readText, bind_assoc, outcome_bind_ok (outcome_modifyGet _ r), hbehind]
  rfl

theorem returns_untilFirstLook {request : Request} {settings : Settings}
    (hvalid : request.choices.validate = .ok settings) (hsource : request.source.isEmpty = false) :
    Returns (untilFirstLook stages request) r settings fun r' => r'.flag = r.flag := by
  have henter : Returns (enter stages .reading) r () fun r' => r'.flag = r.flag :=
    returns_modify rfl
  refine henter.bind fun r₁ h₁ => ?_
  have hvalidate : Returns (validate stages request) r₁ settings fun r' => r'.flag = r.flag :=
    returns_validate hvalid h₁
  exact hvalidate.bind fun r₂ h₂ => (returns_checkPath hsource h₂).bind fun r₃ h₃ =>
    returns_pure settings h₃

/-- What keeps the run from its source stops it. -/
theorem stopsAt_untilRead {request : Request} {cause : Cause}
    (h : request.obstacle? r.flag = some cause) :
    StopsAt (untilRead stages request) r (.failed { stage := .reading, cause }) := by
  have henter : Returns (enter stages .reading) r () fun _ => True := returns_modify trivial
  rw [Request.obstacle?] at h
  split at h
  · rename_i e hvalid
    cases h
    exact (henter.bind_stopsAt fun _ _ => (stopsAt_validate hvalid).bind _).bind _
  · rename_i settings hvalid
    cases hsource : request.source.isEmpty with
    | true =>
      rw [hsource, if_pos rfl] at h
      cases h
      have hvalidate : ∀ r₁ : Run σ, Returns (validate stages request) r₁ settings fun _ => True :=
        fun _ => returns_validate hvalid trivial
      refine StopsAt.bind (henter.bind_stopsAt fun r₁ _ => ?_) _
      exact (hvalidate r₁).bind_stopsAt fun _ _ => (stopsAt_checkPath hsource).bind _
    | false =>
      rw [hsource, if_neg Bool.false_ne_true] at h
      cases hflag : r.flag with
      | true =>
        rw [hflag, if_pos rfl] at h
        cases h
        exact (returns_untilFirstLook hvalid hsource).bind_stopsAt fun r₁ h₁ =>
          (stopsAt_checkFlag (h₁.trans hflag)).bind _
      | false =>
        rw [hflag, if_neg Bool.false_ne_true] at h
        cases h

theorem returns_untilRead {request : Request} (h : request.obstacle? r.flag = none) :
    ∃ settings, Returns (untilRead stages request) r settings fun _ => True := by
  obtain ⟨⟨settings, hvalid⟩, hsource, hflag⟩ := Request.obstacle?_eq_none_iff.1 h
  refine ⟨settings, (returns_untilFirstLook hvalid hsource).bind fun r₁ h₁ => ?_⟩
  have hlook : Returns checkFlag r₁ () fun _ => True := returns_checkFlag (h₁.trans hflag) trivial
  exact hlook.bind fun _ _ => returns_pure settings trivial

end Run

namespace Analyzer

open Run

variable {σ : Type}

theorem analyze_entered (stages : Stages σ) (a : Analyzer σ) (request : Request) :
    (a.analyze stages request).journal.entered =
      (outcome (stagesInOrder stages request)
        (begin stages a request.source)).2.journal.entered :=
  conclude_keeps (v := fun r => r.journal.entered) (fun _ _ => rfl) (fun _ _ => rfl) _ _

theorem analyze_reads (stages : Stages σ) (a : Analyzer σ) (request : Request) :
    (a.analyze stages request).journal.reads =
      (outcome (stagesInOrder stages request)
        (begin stages a request.source)).2.journal.reads :=
  conclude_keeps (v := fun r => r.journal.reads) (fun _ _ => rfl) (fun _ _ => rfl) _ _

theorem analyze_attributed (stages : Stages σ) (a : Analyzer σ) (request : Request) :
    (a.analyze stages request).Attributed := by
  have hentered := analyze_entered stages a request
  have hends := stagesInOrder_endsInPlace stages request (begin stages a request.source) rfl
  obtain ⟨s, hs⟩ := hends.exists_entered
  have hresult : (a.analyze stages request).result =
      (outcome (stagesInOrder stages request) (begin stages a request.source)).1 := rfl
  rcases hrun : outcome (stagesInOrder stages request)
    (begin stages a request.source) with ⟨result, r⟩
  rw [hrun] at hentered hends hresult hs
  refine ⟨?_, fun report hreport => ?_, fun e he => ?_, fun message hmessage => ?_⟩
  · rw [hentered, hs]
    exact s.upTo_isPrefix.map _
  · rw [hresult] at hreport
    dsimp only at hreport
    subst hreport
    rw [hentered]
    exact congrArg (·.2.1) hends
  · rw [hresult] at he
    dsimp only at he
    subst he
    obtain ⟨-, hplace, hcause⟩ := hends
    have hlast : r.journal.entered = e.stage.upTo.map .active := congrArg (·.2.1) hplace
    refine ⟨?_, hcause, ?_⟩
    · rw [hentered, hlast, Stage.getLast?_upTo]
    · rw [← hcause]
      exact e.cause.stage_ne_reporting
  · have hclosed := (analyze_closed stages a request).1.state
    rw [RunOutcome.EndsAs, hmessage] at hclosed
    exact hclosed

theorem analyze_readsBehindChecks (stages : Stages σ) (a : Analyzer σ) (request : Request) :
    (a.analyze stages request).ReadsBehindChecks request a.flag := by
  have hkeeps : Keeps readSoFar (untilRead stages request) :=
    keeps_reads_untilRead request
  have hbefore := hkeeps (begin stages a request.source)
  have hreads := analyze_reads stages a request
  have hresult : (a.analyze stages request).result =
      (outcome (stagesInOrder stages request) (begin stages a request.source)).1 := rfl
  rw [stagesInOrder_eq_sinceRead] at hreads hresult
  refine ⟨fun cause hcause => ?_, fun hnone => ?_⟩
  · obtain ⟨r, hr⟩ := stopsAt_untilRead (r := begin stages a request.source) hcause
    rw [hr] at hbefore
    rw [outcome_bind_error hr] at hreads hresult
    exact ⟨hresult, hreads.trans hbefore⟩
  · obtain ⟨settings, r, hr, -⟩ :=
      returns_untilRead (r := begin stages a request.source) hnone
    rw [hr] at hbefore
    rw [outcome_bind_ok hr] at hreads
    have honce : readSoFar (outcome (sinceRead stages request settings) r).2 =
        readSoFar r ++ [request.source] := reads_sinceRead request settings r
    rw [hbefore] at honce
    exact hreads.trans honce

/-- **Failures name the stage that was active**, and the source is read behind all checks: whatever
the parts of the run do, however it ends, and whenever somebody asks to cancel it. -/
theorem analyze_attributes (stages : Stages σ) (a : Analyzer σ) (request : Request) :
    (a.analyze stages request).Attributed ∧
      (a.analyze stages request).ReadsBehindChecks request a.flag :=
  ⟨analyze_attributed stages a request, analyze_readsBehindChecks stages a request⟩

end Analyzer

end LogDigest
