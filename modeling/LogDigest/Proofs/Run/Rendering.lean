import LogDigest.Proofs.Csv
import LogDigest.Proofs.Run.Writing
import LogDigest.Proofs.Settings

/-!
# A run always writes its export out

The path of an export names a format in all valid settings, and records can be written out in every
format. So the only way to fail while saving is a write that is refused
(`Analyzer.analyze_renders`).

**How a run stops** (`Halts`). What is known of a run that stops in its last stage is followed along
the run. Before that stage there is nothing to show, because a part of another stage leaves the run
in that stage. In it, writing the export out never stops the run, and a write stops it only with the
answer to that write (`Stop.AnswersLast`).
-/

namespace LogDigest

variable {σ α β : Type}

/-! ## Formats -/

/-- The path names a format, in which all records can be written out. -/
def Path.Renders (path : Path) : Prop :=
  ∃ format, ExportFormat.ofPath path = .ok format ∧
    ∀ records, exportFor path records = .ok (exportBytes records format)

theorem Choices.renders_of_validate {c : Choices} {settings : Settings} {path : Path}
    (h : c.validate = .ok settings) (hpath : settings.exportTo = some path) : path.Renders := by
  obtain ⟨format, hformat⟩ := ofPath_of_validate h hpath
  refine ⟨format, hformat, fun records => ?_⟩
  rw [exportFor, hformat]
  rfl

/-! ## Stops -/

/-- Why a run stopped is the answer to the last of these writes, at some state of the storage. -/
inductive Stop.AnswersLast (stages : Stages σ) (writes : List (Path × List UInt8)) : Stop → Prop
  | refused {store : σ} {path : Path} {bytes : List UInt8} {c : IoError} {cause : Cause}
    (hlast : writes.getLast? = some (path, bytes))
    (hanswer : (stages.write store path bytes).2.result = .failed c)
    (hcause : cause = .sink { path, cause := c } ∨ cause = .exported (.io path c)) :
    AnswersLast stages writes (.failed { stage := .persisting, cause })
  | unwound {store : σ} {path : Path} {bytes : List UInt8} {message : String}
    (hlast : writes.getLast? = some (path, bytes))
    (hanswer : (stages.write store path bytes).2.result = .unwound message) :
    AnswersLast stages writes (.unwound message)

namespace Run

/-- If the act stops, and that is in the last stage, then with the answer to the last write. -/
def Halts (stages : Stages σ) (act : Act σ α) (r : Run σ) : Prop :=
  ∀ stop r', outcome act r = (.error stop, r') → r'.state = .active .persisting →
    stop.AnswersLast stages r'.journal.writes

namespace Halts

variable {stages : Stages σ} {x : Act σ α} {f : α → Act σ β} {r r' : Run σ} {a : α}

theorem of_ok (h : outcome x r = (.ok a, r')) : Halts stages x r := by
  intro stop r₁ h₁
  rw [h] at h₁
  cases h₁

theorem bind (hx : Halts stages x r)
    (hf : ∀ a r', outcome x r = (.ok a, r') → Halts stages (f a) r') :
    Halts stages (x >>= f) r := by
  intro stop r' h
  rw [outcome_bind] at h
  rcases hxr : outcome x r with ⟨stop' | a, r₁⟩ <;> rw [hxr] at h
  · cases h
    exact hx _ _ hxr
  · exact hf a r₁ hxr stop r' h

/-- A part of an earlier stage does not stop the run in the last one. -/
theorem inside_bind {stage : Stage} (hx : Inside stage x) (hstage : stage ≠ .persisting)
    (hr : r.state = .active stage)
    (hf : ∀ a r', outcome x r = (.ok a, r') → r'.state = .active stage →
      Halts stages (f a) r') : Halts stages (x >>= f) r := by
  have hstate : (outcome x r).2.state = .active stage := (hx.keeps_state r).trans hr
  refine bind (fun stop r' h hlast => ?_) fun a r' h => hf a r' h ?_ <;> rw [h] at hstate
  · cases hstate.symm.trans hlast
    exact absurd rfl hstage
  · exact hstate

theorem enter_bind {stage : Stage} {f : Unit → Act σ β}
    (hf : ∀ r', r'.state = .active stage → Halts stages (f ()) r') :
    Halts stages (enter stages stage >>= f) r := by
  refine bind (of_ok (outcome_modify _ r)) fun _ r' h => hf r' ?_
  rw [enter, outcome_modify] at h
  cases h
  rfl

/-- A write stops the run with its answer. -/
theorem writeFile {cause : IoError → Cause} {path : Path}
    (hcause : ∀ c, cause c = .sink { path, cause := c } ∨ cause c = .exported (.io path c))
    (bytes : List UInt8) : Halts stages (writeFile stages cause path bytes) r := by
  intro stop r' h _
  rw [outcome_writeFile] at h
  have hlast : (written stages r path bytes).journal.writes.getLast? = some (path, bytes) :=
    List.getLast?_concat
  cases hanswer : (stages.write r.store path bytes).2.result <;> rw [hanswer] at h <;> cases h
  · exact .refused hlast hanswer (hcause _)
  · exact .unwound hlast hanswer

end Halts

variable {stages : Stages σ} {r : Run σ}

theorem halts_saveReport (output : Path) (report : Report) :
    Halts stages (saveReport stages output report) r :=
  .bind (.writeFile (fun _ => .inl rfl) _) fun _ r' _ => .of_ok (outcome_log stages _ r')

theorem halts_saveExport (exported : Option (Path × List UInt8)) :
    Halts stages (saveExport stages exported) r := by
  cases exported with
  | none => exact .of_ok (outcome_pure _ r)
  | some w =>
    exact .bind (.writeFile (fun _ => .inr rfl) _) fun _ r₁ _ =>
      .bind (.of_ok (outcome_get r₁)) fun _ r₂ _ => .of_ok (outcome_log stages _ r₂)

/-- Writing the export out never stops a run. -/
theorem halts_renderExport {exportTo : Option Path}
    (h : ∀ path, exportTo = some path → path.Renders) :
    Halts stages (renderExport stages exportTo) r := by
  cases exportTo with
  | none => exact .of_ok (outcome_pure _ r)
  | some path =>
    obtain ⟨format, -, hbytes⟩ := h path rfl
    refine .bind (.of_ok (outcome_get r)) fun r' r₁ _ => ?_
    dsimp only
    rw [hbytes]
    exact .bind (.of_ok (outcome_log stages _ r₁)) fun _ r₂ _ => .of_ok (outcome_pure _ r₂)

theorem halts_persist {settings : Settings} {report : Report}
    (h : ∀ path, settings.exportTo = some path → path.Renders) :
    Halts stages (persist stages settings report) r :=
  .bind (halts_renderExport h) fun exported _ _ =>
    .bind (halts_saveReport settings.output report) fun _ _ _ => halts_saveExport exported

theorem brings_readStage (stages : Stages σ) (request : Request) (r : Run σ) :
    Brings (readStage stages request) r fun settings _ =>
      request.choices.validate = .ok settings :=
  (brings_validate stages request r).bind fun _ _ hvalid => .bind .trivial fun _ _ _ => .pure hvalid

theorem halts_laterStages {settings : Settings}
    (h : ∀ path, settings.exportTo = some path → path.Renders) :
    Halts stages (laterStages stages settings) r := by
  refine .enter_bind fun r₁ h₁ => ?_
  refine .inside_bind (inside_selectRecords ..) nofun h₁ fun _ r₂ _ _ => ?_
  refine .enter_bind fun r₃ h₃ => ?_
  refine .inside_bind (inside_processRecords ..) nofun h₃ fun _ r₄ _ _ => ?_
  refine .enter_bind fun r₅ h₅ => ?_
  refine .inside_bind (inside_makeReport ..) nofun h₅ fun report r₆ _ _ => ?_
  refine .enter_bind fun r₇ _ => ?_
  exact .bind (halts_persist h) fun _ r₈ _ => .of_ok (outcome_pure _ r₈)

/-- **In its last stage a run stops only with the answer to a write.** -/
theorem halts_stagesInOrder (stages : Stages σ) (request : Request) (r : Run σ) :
    Halts stages (stagesInOrder stages request) r := by
  refine .enter_bind fun r₁ h₁ => ?_
  refine .inside_bind (inside_readStage ..) nofun h₁ fun settings r₂ hread _ => ?_
  have hvalid := brings_readStage stages request r₁ settings r₂ hread
  exact halts_laterStages fun path => Choices.renders_of_validate hvalid

end Run

/-! ## Whole runs -/

open Run

/-- Nothing that a run does in saving fails but the last write that it asked for. -/
structure RunOutcome.RendersAll (stages : Stages σ) (o : RunOutcome σ) : Prop where
  /-- No run fails because its export cannot be written out. -/
  exports : ∀ e x, o.result = .error (.failed e) → e.cause = .exported x →
    ∃ path c, x = .io path c
  /-- A run that fails in its last stage stopped with the answer to its last write. -/
  persisting : o.analyzer.state = .failed .persisting →
    ∃ stop, o.result = .error stop ∧ stop.AnswersLast stages o.journal.writes

namespace Analyzer

theorem answersLast_of_failed (stages : Stages σ) (a : Analyzer σ) (request : Request)
    (h : (a.analyze stages request).analyzer.state = .failed .persisting) :
    ∃ stop, (a.analyze stages request).result = .error stop ∧
      stop.AnswersLast stages (a.analyze stages request).journal.writes := by
  have hwrites := analyze_writes stages a request
  have hplace := stagesInOrder_endsInPlace stages request (begin stages a request.source) rfl
  have hhalts := halts_stagesInOrder stages request (begin stages a request.source)
  have hresult : (a.analyze stages request).result =
      (outcome (stagesInOrder stages request) (begin stages a request.source)).1 := rfl
  have hstate : (a.analyze stages request).analyzer.state =
      (conclude stages (outcome (stagesInOrder stages request) (begin stages a request.source)).2
        (outcome (stagesInOrder stages request) (begin stages a request.source)).1).state := rfl
  rw [hstate] at h
  rw [hresult, hwrites]
  rcases hrun : outcome (stagesInOrder stages request) (begin stages a request.source) with
    ⟨(e | message) | report, r⟩ <;> rw [hrun] at h hplace <;> dsimp only
  · -- A failed run stands in the stage that the failure names.
    have hstage : e.stage = .persisting := RunState.failed.inj h
    have hactive : r.state = .active e.stage := congrArg Prod.fst hplace.2.1
    exact ⟨_, rfl, hhalts _ r hrun (hstage ▸ hactive)⟩
  · obtain ⟨s, -, hs⟩ := hplace
    have hactive : r.state = .active s := congrArg Prod.fst hs
    simp only [conclude, hactive, RunState.stage?] at h
    cases h
    exact ⟨_, rfl, hhalts _ r hrun hactive⟩
  · cases h

/-- The cause of a failed run arises in the stage that failed. -/
theorem cause_stage_of_failed (stages : Stages σ) (a : Analyzer σ) (request : Request)
    {e : AnalysisError} (h : (a.analyze stages request).result = .error (.failed e)) :
    e.cause.stage = e.stage ∧ (a.analyze stages request).analyzer.state = .failed e.stage := by
  have hplace := stagesInOrder_endsInPlace stages request (begin stages a request.source) rfl
  have hends := (analyze_closed stages a request).1.state
  rw [RunOutcome.EndsAs, h] at hends
  have hresult : (outcome (stagesInOrder stages request) (begin stages a request.source)).1 =
      .error (.failed e) := h
  rcases hrun : outcome (stagesInOrder stages request) (begin stages a request.source) with
    ⟨result, r⟩
  rw [hrun] at hplace hresult
  cases hresult
  exact ⟨hplace.2.2, hends⟩

theorem analyze_rendersAll (stages : Stages σ) (a : Analyzer σ) (request : Request) :
    (a.analyze stages request).RendersAll stages where
  exports e x hresult hcause := by
    obtain ⟨hstage, hstate⟩ := cause_stage_of_failed stages a request hresult
    rw [hcause] at hstage
    rw [← hstage] at hstate
    obtain ⟨stop, hstop, hanswer⟩ := answersLast_of_failed stages a request hstate
    rw [hresult] at hstop
    cases hstop
    cases hanswer with
    | refused _ _ hrefused =>
      rcases hrefused with h | h <;> cases hcause.symm.trans h
      exact ⟨_, _, rfl⟩
  persisting := answersLast_of_failed stages a request

end Analyzer

/-- **A run always writes its export out.** In valid settings the path of an export names a format,
in which all records can be written out, with rows of one length. So no run fails because of its
export, and a run that fails while saving stopped with the answer to its last write. -/
theorem Analyzer.analyze_renders :
    (∀ (c : Choices) (settings : Settings) (path : Path), c.validate = .ok settings →
      settings.exportTo = some path → path.Renders) ∧
    (∀ records, ∀ row ∈ Csv.rows records, row.length = Csv.header.length) ∧
    ∀ {σ : Type} (stages : Stages σ) (a : Analyzer σ) (request : Request),
      (a.analyze stages request).RendersAll stages :=
  ⟨fun _ _ _ => Choices.renders_of_validate, fun _ _ => Csv.length_of_mem_rows,
    fun stages a request => analyze_rendersAll stages a request⟩

/-- A run whose export is refused ends in its last stage, with that answer. -/
theorem Analyzer.analyze_renders_exportRefused :
    let stages := Stages.inMemory newYear
    let o := (new (oneLine.refuse ⟨"records.csv"⟩) {}).analyze stages exporting
    o.analyzer.state = .failed .persisting ∧
      ∃ stop, o.result = .error stop ∧ stop.AnswersLast stages o.journal.writes := by
  intro stages o
  have hstate : o.analyzer.state = .failed .persisting := by decide +kernel
  exact ⟨hstate, (analyze_renders.2.2 stages _ exporting).persisting hstate⟩

end LogDigest
