import LogDigest.Proofs.Run.Closing
import LogDigest.Proofs.Run.Course
import LogDigest.Proofs.Run.FreshRun
import LogDigest.Proofs.Store

/-!
# What a run may write

A run asks for at most two writes, in this order: the report to the path of the report, and, if
the records are to be exported, the whole rendered export to its path. The second is asked for
only if the first one was done (`analyze_writes_only_due`).

**Nothing before the end.** Everything that is saved is found before anything is saved. So a run
that stops on the way, also because the export cannot be written out, has written nothing.

**Files in memory.** A refused write changes nothing. So a refused report leaves the files as they
were, a refused export leaves the report as the only change, and no run changes any other file.
-/

namespace LogDigest

variable {σ : Type}

/-- What is to be written when all was found: the report, and then the export. -/
def Findings.due (f : Findings) : List (Path × List UInt8) :=
  (f.settings.output, Utf8.encode f.report.body.toList) :: f.exported.toList

namespace Run

def reportCall (stages : Stages σ) (f : Findings) (r : Run σ) : Call IoError Unit :=
  (stages.write r.store f.settings.output (Utf8.encode f.report.body.toList)).2

/-! ## Saving -/

/-- The run after a write was asked for. -/
def written (stages : Stages σ) (r : Run σ) (path : Path) (bytes : List UInt8) : Run σ :=
  hear stages
    { r with
      store := (stages.write r.store path bytes).1
      journal := { r.journal with writes := r.journal.writes ++ [(path, bytes)] } }
    (stages.write r.store path bytes).2

theorem outcome_writeFile (stages : Stages σ) (cause : IoError → Cause) (path : Path)
    (bytes : List UInt8) (r : Run σ) :
    outcome (writeFile stages cause path bytes) r =
      (performed .persisting cause (stages.write r.store path bytes).2.result,
        written stages r path bytes) := by
  rw [writeFile, outcome_bind_ok (outcome_modifyGet ..), outcome_perform]
  rfl

theorem outcome_saveReport (stages : Stages σ) (f : Findings) (r : Run σ) :
    ∃ r', outcome (saveReport stages f.settings.output f.report) r =
        (performed .persisting (fun e => .sink { path := f.settings.output, cause := e })
          (reportCall stages f r).result, r') ∧
      r'.journal.writes = r.journal.writes ++ f.due.take 1 := by
  rw [saveReport]
  cases hcall : (reportCall stages f r).result <;> rw [reportCall] at hcall <;>
    rw [outcome_bind, outcome_writeFile, hcall]
  all_goals exact ⟨_, rfl, rfl⟩

theorem outcome_saveExport (stages : Stages σ) (exported : Option (Path × List UInt8)) (r : Run σ) :
    (outcome (saveExport stages exported) r).2.journal.writes =
        r.journal.writes ++ exported.toList ∧
      ∀ e, (outcome (saveExport stages exported) r).1 = .error (.failed e) →
        ∃ path c, e.cause = .exported (.io path c) := by
  cases exported with
  | none => exact ⟨(List.append_nil _).symm, fun _ h => by cases h⟩
  | some w =>
    obtain ⟨path, bytes⟩ := w
    simp only [saveExport]
    rw [outcome_bind, outcome_writeFile]
    cases hcall : (stages.write r.store path bytes).2.result with
    | returned => exact ⟨rfl, fun _ h => by cases h⟩
    | unwound message => exact ⟨rfl, fun _ h => by cases h⟩
    | failed c =>
      refine ⟨rfl, fun e he => ?_⟩
      cases he
      exact ⟨path, c, rfl⟩

/-- What saving leaves: the writes that it asked for, and why it may have failed. -/
structure Saved (stages : Stages σ) (f : Findings) (r : Run σ) (o : Except Stop Report × Run σ) :
    Prop where
  writes : o.2.journal.writes = r.journal.writes ++
    if (reportCall stages f r).result = .returned () then f.due else f.due.take 1
  report : ∀ report, o.1 = .ok report →
    report = f.report ∧ (reportCall stages f r).result = .returned ()
  cause : ∀ e, o.1 = .error (.failed e) →
    (∃ c, e.cause = .sink c) ∨ ∃ path c, e.cause = .exported (.io path c)

theorem save_saved (stages : Stages σ) (f : Findings) (r : Run σ) :
    Saved stages f r (outcome (save stages f) r) := by
  obtain ⟨r₁, hreport, hwrites⟩ := outcome_saveReport stages f r
  rw [save, outcome_bind, hreport]
  cases hcall : (reportCall stages f r).result with
  | failed c =>
    have hunsaved : (reportCall stages f r).result ≠ .returned () := by rw [hcall]; nofun
    simp only [performed]
    refine ⟨by rw [if_neg hunsaved, hwrites], fun _ h => (by cases h), fun e he => ?_⟩
    cases he
    exact .inl ⟨_, rfl⟩
  | unwound message =>
    have hunsaved : (reportCall stages f r).result ≠ .returned () := by rw [hcall]; nofun
    simp only [performed]
    exact ⟨by rw [if_neg hunsaved, hwrites], fun _ h => (by cases h), fun _ h => by cases h⟩
  | returned =>
    obtain ⟨hexport, hcause⟩ := outcome_saveExport stages f.exported r₁
    have hdue : r₁.journal.writes ++ f.exported.toList = r.journal.writes ++ f.due := by
      rw [hwrites, List.append_assoc]
      rfl
    rw [hdue] at hexport
    simp only [performed]
    rw [outcome_bind]
    rcases hsave : outcome (saveExport stages f.exported) r₁ with ⟨stop | _, r₂⟩ <;>
      rw [hsave] at hexport hcause
    · exact ⟨by rw [if_pos hcall, ← hexport], fun _ h => (by cases h),
        fun e he => .inr (hcause e (by cases he; rfl))⟩
    · refine ⟨by rw [if_pos hcall, ← hexport]; rfl, fun report h => ?_, fun _ h => by cases h⟩
      cases h
      exact ⟨rfl, hcall⟩

theorem Inside.keeps_state {α : Type} {stage : Stage} {act : Act σ α} (h : Inside stage act) :
    Keeps (fun r => r.state) act :=
  fun r => congrArg Prod.fst (h.stays r).standing

theorem inside_save (stages : Stages σ) (f : Findings) : Inside .persisting (save stages f) :=
  (inside_saveReport ..).bind fun _ => (inside_saveExport ..).bind fun _ => .pure _

/-- When a run begins to save, it is in its last stage. -/
theorem brings_untilFound_state (stages : Stages σ) (settings : Settings) (r : Run σ) :
    Brings (untilFound stages settings) r fun _ r' => r'.state = .active .persisting := by
  refine .bind .trivial fun _ r₁ _ => .bind .trivial fun report r₂ _ => ?_
  refine .bind (.modify (P := fun _ r' => r'.state = .active .persisting) rfl) fun _ r₃ h₃ => ?_
  refine .bind ((inside_renderExport stages settings.exportTo).keeps_state.brings r₃)
    fun exported r₄ h₄ => ?_
  exact .bind (.get (P := fun _ r' => r'.state = r₄.state) rfl) fun _ r₅ h₅ =>
    .pure (h₅.trans (h₄.trans h₃))

theorem brings_untilSaving_state (stages : Stages σ) (request : Request) (r : Run σ) :
    Brings (untilSaving stages request) r fun _ r' => r'.state = .active .persisting :=
  .bind .trivial fun settings _ _ => .bind .trivial fun _ _ _ => .bind .trivial fun _ r₃ _ =>
    brings_untilFound_state stages settings r₃

end Run

/-! ## Files in memory -/

/-- The parts of a run that saves to files in memory and keeps no log there. -/
def Stages.overMemory (stages : Stages Memory) : Stages Memory :=
  { stages with write := Memory.save, log := fun m _ => m }

namespace Run

theorem outcome_writeFile_overMemory (stages : Stages Memory) (cause : IoError → Cause)
    (path : Path) (bytes : List UInt8) (r : Run Memory) :
    ∃ r', r'.store = (r.store.save path bytes).1 ∧
      outcome (writeFile stages.overMemory cause path bytes) r =
        (if r.store.Refuses path then
          .error (.failed { stage := .persisting, cause := cause (.refused path) })
        else .ok (), r') := by
  refine ⟨written stages.overMemory r path bytes, rfl, ?_⟩
  have hwrite : (stages.overMemory.write r.store path bytes).2 = (r.store.save path bytes).2 := rfl
  rw [outcome_writeFile, hwrite]
  by_cases h : r.store.Refuses path
  · rw [if_pos h, Memory.save_of_refuses h]
    rfl
  · rw [if_neg h, Memory.save_of_not_refuses h]
    rfl

theorem saveExport_overMemory (stages : Stages Memory) (exported : Option (Path × List UInt8))
    (r : Run Memory) :
    (outcome (saveExport stages.overMemory exported) r).2.store =
        r.store.saveAll exported.toList ∧
      ((outcome (saveExport stages.overMemory exported) r).1 = .ok () →
        ∀ w ∈ exported, ¬ r.store.Refuses w.1) := by
  cases exported with
  | none => exact ⟨rfl, nofun⟩
  | some w =>
    obtain ⟨path, bytes⟩ := w
    obtain ⟨r₁, hstore, hwrite⟩ := outcome_writeFile_overMemory stages
      (fun e => .exported (.io path e)) path bytes r
    simp only [saveExport, Option.toList_some, Memory.saveAll]
    rw [outcome_bind, hwrite]
    by_cases h : r.store.Refuses path
    · rw [Memory.save_of_refuses h] at hstore
      rw [if_pos h, if_pos h]
      refine ⟨hstore, fun hok => ?_⟩
      cases hok
    · rw [if_neg h, if_neg h]
      refine ⟨hstore, fun _ w hw => ?_⟩
      cases hw
      exact h

/-- Saving leaves the files that are due, up to the first one that is refused, and ends well only if
none is. -/
theorem save_overMemory (stages : Stages Memory) (f : Findings) (r : Run Memory) :
    (outcome (save stages.overMemory f) r).2.store = r.store.saveAll f.due ∧
      ∀ report, (outcome (save stages.overMemory f) r).1 = .ok report →
        ∀ w ∈ f.due, ¬ r.store.Refuses w.1 := by
  obtain ⟨r₁, hstore, hwrite⟩ := outcome_writeFile_overMemory stages
    (fun e => .sink { path := f.settings.output, cause := e }) f.settings.output
    (Utf8.encode f.report.body.toList) r
  rw [save, outcome_bind, saveReport, outcome_bind, hwrite, Findings.due, Memory.saveAll]
  by_cases h : r.store.Refuses f.settings.output
  · rw [Memory.save_of_refuses h] at hstore
    rw [if_pos h, if_pos h]
    exact ⟨hstore, fun _ h => by cases h⟩
  · rw [if_neg h, if_neg h, ← hstore]
    simp only [outcome_log]
    generalize hr₂ : note stages.overMemory r₁ _ = r₂
    have hstore₂ : r₂.store = r₁.store := by rw [← hr₂]; rfl
    have hrefuses : ∀ path, r₂.store.Refuses path ↔ r.store.Refuses path := fun path => by
      rw [hstore₂, hstore]
      exact (Memory.SameBut.save _ _ _).refuses_iff path
    obtain ⟨hexport, hok⟩ := saveExport_overMemory stages f.exported r₂
    rw [outcome_bind, ← hstore₂]
    rcases hsave : outcome (saveExport stages.overMemory f.exported) r₂ with ⟨stop | _, r₃⟩ <;>
      rw [hsave] at hexport hok
    · exact ⟨hexport, fun _ h => by cases h⟩
    · refine ⟨hexport, fun _ _ w hw => ?_⟩
      rcases List.mem_cons.1 hw with rfl | hw
      · exact h
      · rw [← hrefuses]
        exact hok rfl w (by simpa using hw)

/-! ## Whole runs -/

/-- A run stops before it saves anything, or saves what it found. -/
theorem outcome_stagesInOrder (stages : Stages σ) (request : Request) (r : Run σ) :
    outcome (stagesInOrder stages request) r =
      match outcome (untilSaving stages request) r with
      | (.error stop, r') => (.error stop, r')
      | (.ok f, r') => outcome (save stages f) r' := by
  rw [stagesInOrder_eq_save, outcome_bind]
  rcases outcome (untilSaving stages request) r with ⟨_ | f, r'⟩ <;> rfl

/-- A run that came to saving ends in its last stage. -/
theorem conclude_save_state (stages : Stages σ) (f : Findings) {r : Run σ}
    (hr : r.state = .active .persisting) {s : Stage}
    (hs : (conclude stages (outcome (save stages f) r).2 (outcome (save stages f) r).1).state =
      .failed s) : s = .persisting := by
  have hstate := ((inside_save stages f).keeps_state r).trans hr
  rcases hsave : outcome (save stages f) r with ⟨(e | message) | report, r'⟩ <;>
    rw [hsave] at hs hstate
  · cases hs
    exact ((inside_save stages f).fails hsave).1
  · dsimp only at hstate
    simp only [conclude, hstate, RunState.stage?] at hs
    cases hs
    rfl
  · cases hs

end Run

open Run

/-- What a run wrote, given how it came to saving: with what it had found, or not at all. -/
structure RunOutcome.WritesDue (stages : Stages σ) (request : Request) (ids : IdCounter)
    (came : Except Stop Findings × Run σ) (o : RunOutcome σ) : Prop where
  /-- A run that stops before it saves anything wrote nothing. -/
  stopped : ∀ stop, came.1 = .error stop → o.result = .error stop ∧ o.journal.writes = []
  /-- Otherwise it wrote the report, and if that was saved, what else was due. -/
  writes : ∀ f, came.1 = .ok f → (∃ store, f.Fit stages request store ids) ∧
    o.journal.writes =
      if (reportCall stages f came.2).result = .returned () then f.due else f.due.take 1
  /-- A run that ends well wrote all that was due. -/
  all : ∀ report, o.result = .ok report →
    ∃ f, came.1 = .ok f ∧ report = f.report ∧ o.journal.writes = f.due
  /-- A run that ends in another stage than the last one wrote nothing. -/
  earlier : ∀ s ≠ .persisting, o.analyzer.state = .failed s → o.journal.writes = []
  /-- Nor did a run whose export could not be written out. -/
  unrendered : ∀ e x, o.result = .error (.failed e) → e.cause = .exported x →
    (∀ path c, x ≠ .io path c) → o.journal.writes = []

/-- The paths to which a request may have something saved. -/
def Request.paths (request : Request) : List Path :=
  match request.choices.validate with
  | .ok settings => settings.output :: settings.exportTo.toList
  | .error _ => []

/-- What a run left of files in memory. -/
structure RunOutcome.KeepsToPaths (request : Request) (m : Memory) (o : RunOutcome Memory) :
    Prop where
  /-- Nothing changed but the report and the export. -/
  only : m.SameBut request.paths o.analyzer.store
  /-- Nothing changed if the report was refused. -/
  reportRefused : ∀ settings, request.choices.validate = .ok settings → m.Refuses settings.output →
    o.analyzer.store = m
  /-- Nothing but the report changed if the export was refused. -/
  exportRefused : ∀ settings path, request.choices.validate = .ok settings →
    settings.exportTo = some path → m.Refuses path → m.SameBut [settings.output] o.analyzer.store

theorem Findings.Fit.paths_due {stages : Stages σ} {request : Request} {store : σ}
    {ids : IdCounter} {f : Findings} (h : f.Fit stages request store ids) :
    f.due.map (·.1) = request.paths := by
  have hexported := h.exported
  simp only [Request.paths, h.settings, due, List.map_cons]
  cases hto : f.settings.exportTo with
  | none =>
    rw [hto] at hexported
    have hnone : f.exported = none := hexported
    rw [hnone]
    rfl
  | some path =>
    rw [hto] at hexported
    obtain ⟨bytes, -, hsome⟩ := hexported
    rw [hsome]
    rfl

namespace Analyzer

theorem analyze_writesDue (stages : Stages σ) (a : Analyzer σ) (request : Request) :
    (a.analyze stages request).WritesDue stages request a.ids
      (outcome (untilSaving stages request) (begin stages a request.source)) := by
  have hwrites := analyze_writes stages a request
  have hsight : sight (fun _ => ()) (fun _ => ())
        (outcome (untilSaving stages request) (begin stages a request.source)).2 =
      sight (fun _ => ()) (fun _ => ()) (begin stages a request.source) :=
    sight_untilSaving (fun _ _ => rfl) request _
  have hnone : (outcome (untilSaving stages request)
      (begin stages a request.source)).2.journal.writes = [] := congrArg (·.2.1) hsight
  have hfit : Brings (untilSaving stages request) (begin stages a request.source) fun f _ =>
      ∃ store, () = () ∧ f.Fit stages request store a.ids :=
    brings_untilSaving (p := fun _ => ()) (fun _ _ => rfl) request _
  have hpersisting := brings_untilSaving_state stages request (begin stages a request.source)
  set o := a.analyze stages request with ho
  have hresult : o.result =
      (outcome (stagesInOrder stages request) (begin stages a request.source)).1 := rfl
  have hstate : o.analyzer.state =
      (conclude stages (outcome (stagesInOrder stages request) (begin stages a request.source)).2
        (outcome (stagesInOrder stages request) (begin stages a request.source)).1).state := rfl
  clear_value o
  rw [outcome_stagesInOrder] at hresult hstate hwrites
  rcases hcame : outcome (untilSaving stages request) (begin stages a request.source) with
    ⟨stop | f, r⟩ <;> rw [hcame] at hresult hstate hwrites hnone <;>
    dsimp only at hresult hstate hwrites hnone
  · rw [hnone] at hwrites
    exact {
      stopped := fun stop' h => by cases h; exact ⟨hresult, hwrites⟩
      writes := fun _ h => by cases h
      all := fun report h => by rw [hresult] at h; cases h
      earlier := fun _ _ _ => hwrites
      unrendered := fun _ _ _ _ _ => hwrites }
  · obtain ⟨store, -, hf⟩ := hfit f r hcame
    obtain ⟨hsaved, hreport, hcause⟩ := save_saved stages f r
    rw [hnone, List.nil_append, ← hwrites] at hsaved
    rw [← hresult] at hreport hcause
    exact {
      stopped := fun _ h => by cases h
      writes := fun f' h => by cases h; exact ⟨⟨store, hf⟩, hsaved⟩
      all := fun report h => by
        obtain ⟨hbody, hcall⟩ := hreport report h
        rw [if_pos hcall] at hsaved
        exact ⟨f, rfl, hbody, hsaved⟩
      earlier := fun s hs h => by
        rw [hstate] at h
        exact absurd (conclude_save_state stages f (hpersisting f r hcame) h) hs
      unrendered := fun e x he hx hio => by
        rcases hcause e he with ⟨c, hc⟩ | ⟨path, c, hc⟩ <;> rw [hx] at hc
        · cases hc
        · cases hc
          exact absurd rfl (hio path c) }

theorem analyze_store_overMemory (stages : Stages Memory) (a : Analyzer Memory)
    (request : Request) :
    (a.analyze stages.overMemory request).analyzer.store =
      (outcome (stagesInOrder stages.overMemory request)
        (begin stages.overMemory a request.source)).2.store := by
  have hconclude : ∀ (r : Run Memory) (result : Except Stop Report),
      (close stages.overMemory (conclude stages.overMemory r result)).store = r.store := by
    intro r result
    rcases result with (e | message) | report
    case error.unwound =>
      simp only [conclude]
      split <;> rfl
    all_goals rfl
  exact hconclude ..

/-- A run over memory leaves the files as they were, or saves what it found. -/
theorem analyze_overMemory (stages : Stages Memory) (a : Analyzer Memory) (request : Request) :
    let o := a.analyze stages.overMemory request
    ((∃ stop, o.result = .error stop) ∧ o.analyzer.store = a.store) ∨
      ∃ f : Findings, f.Fit stages.overMemory request a.store a.ids ∧
        o.analyzer.store = a.store.saveAll f.due ∧
        ∀ report, o.result = .ok report →
          report = f.report ∧ ∀ w ∈ f.due, ¬ a.store.Refuses w.1 := by
  intro o
  have hstore := analyze_store_overMemory stages a request
  have hresult : o.result = (outcome (stagesInOrder stages.overMemory request)
    (begin stages.overMemory a request.source)).1 := rfl
  have hsight : sight id (fun _ => ()) (outcome (untilSaving stages.overMemory request)
        (begin stages.overMemory a request.source)).2 =
      sight id (fun _ => ()) (begin stages.overMemory a request.source) :=
    sight_untilSaving (fun _ _ => rfl) request _
  have hsame : (outcome (untilSaving stages.overMemory request)
      (begin stages.overMemory a request.source)).2.store = a.store := congrArg (·.1) hsight
  have hfit : Brings (untilSaving stages.overMemory request)
      (begin stages.overMemory a request.source) fun f _ =>
        ∃ store, store = a.store ∧ f.Fit stages.overMemory request store a.ids :=
    brings_untilSaving (p := id) (fun _ _ => rfl) request _
  rw [outcome_stagesInOrder] at hstore hresult
  rcases hcame : outcome (untilSaving stages.overMemory request)
    (begin stages.overMemory a request.source) with ⟨stop | f, r⟩ <;>
    rw [hcame] at hstore hresult hsame <;> dsimp only at hstore hresult hsame
  · exact .inl ⟨⟨stop, hresult⟩, hstore.trans hsame⟩
  · obtain ⟨store, rfl, hf⟩ := hfit f r hcame
    obtain ⟨hsaved, hrefused⟩ := save_overMemory stages f r
    rw [hsame] at hsaved hrefused
    refine .inr ⟨f, hf, hstore.trans hsaved, fun report h => ?_⟩
    rw [hresult] at h
    exact ⟨((save_saved _ f r).report report h).1, hrefused report h⟩

theorem analyze_keepsToPaths (stages : Stages Memory) (a : Analyzer Memory) (request : Request) :
    (a.analyze stages.overMemory request).KeepsToPaths request a.store := by
  rcases analyze_overMemory stages a request with ⟨-, hstore⟩ | ⟨f, hf, hstore, -⟩ <;>
    constructor <;> rw [hstore]
  · exact .refl _
  · exact fun _ _ _ => rfl
  · exact fun _ _ _ _ _ => .refl _
  · rw [← hf.paths_due]
    exact Memory.saveAll_sameBut _ _
  · intro settings hvalid hrefuses
    rw [hf.settings] at hvalid
    cases hvalid
    exact Memory.saveAll_append_of_refuses
      (w := (f.settings.output, Utf8.encode f.report.body.toList)) hrefuses [] f.exported.toList
  · intro settings path hvalid hpath hrefuses
    rw [hf.settings] at hvalid
    cases hvalid
    have hexported := hf.exported
    rw [hpath] at hexported
    obtain ⟨bytes, -, hsome⟩ := hexported
    have hdue : f.due = [(f.settings.output, Utf8.encode f.report.body.toList)] ++
        (path, bytes) :: [] := by rw [Findings.due, hsome]; rfl
    rw [hdue, Memory.saveAll_append_of_refuses (w := (path, bytes)) hrefuses]
    exact Memory.saveAll_sameBut a.store [(f.settings.output, Utf8.encode f.report.body.toList)]

/-- **What a run may write.** Whatever the parts of a run do and however it ends, it asks for a
prefix of what is due: the report, and then, if there is an export, the whole of it, and for the
second only if the first was saved. A run that ends in another stage than the last one, or whose
export cannot be written out, asks for nothing. In memory a refused report leaves the files as they
were, a refused export leaves the report as the only change, and no run changes a file under another
path. -/
theorem analyze_writes_only_due (request : Request) :
    (∀ {σ : Type} (stages : Stages σ) (a : Analyzer σ),
      (a.analyze stages request).WritesDue stages request a.ids
        (outcome (untilSaving stages request) (begin stages a request.source))) ∧
      ∀ (stages : Stages Memory) (a : Analyzer Memory),
        (a.analyze stages.overMemory request).KeepsToPaths request a.store :=
  ⟨fun stages a => analyze_writesDue stages a request,
    fun stages a => analyze_keepsToPaths stages a request⟩

/-- A run whose export is refused asked for both writes, and the report is saved. -/
theorem analyze_writes_only_due_exportRefused :
    let m := oneLine.refuse ⟨"records.csv"⟩
    let o := (new m {}).analyze (Stages.inMemory newYear).overMemory exporting
    m.Refuses ⟨"records.csv"⟩ ∧ o.analyzer.state = .failed .persisting ∧
      o.journal.writes.map (·.1) = [⟨"report.txt"⟩, ⟨"records.csv"⟩] ∧
      o.analyzer.store.outputs.map (·.1) = [⟨"report.txt"⟩] ∧
      m.SameBut [⟨"report.txt"⟩] o.analyzer.store := by
  intro m o
  have hrefuses : m.Refuses ⟨"records.csv"⟩ := by decide +kernel
  have hends : o.analyzer.state = .failed .persisting ∧
      o.journal.writes.map (·.1) = [⟨"report.txt"⟩, ⟨"records.csv"⟩] ∧
      o.analyzer.store.outputs.map (·.1) = [⟨"report.txt"⟩] := by
    decide +kernel
  refine ⟨hrefuses, hends.1, hends.2.1, hends.2.2, ?_⟩
  have hpaths : ∀ settings ∈ exporting.choices.validate.toOption,
      settings.output = ⟨"report.txt"⟩ ∧ settings.exportTo = some ⟨"records.csv"⟩ := by
    decide +kernel
  have hkeeps := (analyze_writes_only_due exporting).2 (.inMemory newYear) (new m {})
  cases hvalid : exporting.choices.validate with
  | error e =>
    have hok : exporting.choices.validate.isOk = true := by decide +kernel
    rw [hvalid] at hok
    cases hok
  | ok settings =>
    obtain ⟨houtput, hexport⟩ := hpaths settings (by rw [hvalid]; rfl)
    rw [← houtput]
    exact hkeeps.exportRefused settings _ hvalid hexport hrefuses

end Analyzer

end LogDigest
