import LogDigest.Proofs.Run.Processing
import LogDigest.Proofs.Run.Returns
import LogDigest.Proofs.Run.Standard
import LogDigest.Proofs.Selection
import LogDigest.Proofs.Settings
import LogDigest.Proofs.Summary

/-!
# What a run comes to

With the standard parts over files in memory a run has an effect on the analyzer and on the files,
but its result is a function of the request, the files and the counter of identities
(`Request.expected`).

**How.** `Returns act r a P` says that the act ends well with `a`, and `StopsAt act r stop` that it
stops. Up to reading a run is known by its files and the counter (`Ready`), and from then on by its
files and records (`Holds`). What an analyzer holds from earlier runs is looked at nowhere. Work
that raises no flag ends well under every schedule in which nobody else raises it.
-/

namespace LogDigest

/-! ## The reference -/

/-- The records of a log, with identities from this counter on. -/
def recordsOf (ids : IdCounter) (shape : LineShape) (bytes : List UInt8) : List Record :=
  (ids.mintAll ((Text.lines (Utf8.lossy bytes)).filterMap shape.read?)).1

def reportOn (now : Timestamp) (records : List Record) : Report where
  summary := Summary.described records
  generatedAt := now
  body := (Summary.described records).reportText now

/-- What a run should come to: settings that are not valid, then an empty path, then a file that is
not there, then records that cannot be selected are the failure, and otherwise there is a report on
the records that the settings ask for. -/
def Request.expected (request : Request) (now : Timestamp) (inputs : Shelf) (ids : IdCounter) :
    Except AnalysisError Report :=
  match request.choices.validate with
  | .error e => .error { stage := .reading, cause := .config e }
  | .ok settings =>
    if request.source.isEmpty then .error { stage := .reading, cause := .source .missingPath }
    else
      match inputs.get? request.source with
      | none =>
        .error
          { stage := .reading, cause := .source (.io request.source (.noInput request.source)) }
      | some bytes =>
        match settings.selection.chosen (recordsOf ids settings.shape bytes) with
        | .error e => .error { stage := .filtering, cause := .filter e }
        | .ok kept => .ok (reportOn now kept)

/-- Nothing refuses to take what these settings ask to write. -/
def Unrefused (refusals : List Path) (settings : Settings) : Prop :=
  ∀ path ∈ settings.output :: settings.exportTo.toList,
    (refusals.any fun p => p.same path) = false

namespace Run

variable {now : Timestamp} {schedule : Nat → List Record → Schedule} {m : Memory}
  {ids : IdCounter} {records : List Record} {r : Run Memory}

/-! ## Reading -/

/-- A run over these files, before its records are read. -/
structure Ready (m : Memory) (ids : IdCounter) (r : Run Memory) : Prop where
  store : r.store = m
  flag : r.flag = false
  ids : r.ids = ids

/-- A run over these files that holds these records. -/
structure Holds (m : Memory) (records : List Record) (r : Run Memory) : Prop where
  store : r.store = m
  flag : r.flag = false
  records : r.records = records

theorem ready_enter (h : Ready m ids r) (stage : Stage) :
    Returns (enter (.scheduled now schedule) stage) r () (Ready m ids) :=
  returns_modify { h with }

theorem holds_enter (h : Holds m records r) (stage : Stage) :
    Returns (enter (.scheduled now schedule) stage) r () (Holds m records) :=
  returns_modify { h with }

theorem ready_validate (h : Ready m ids r) {request : Request} {settings : Settings}
    (hvalid : request.choices.validate = .ok settings) :
    Returns (validate (.scheduled now schedule) request) r settings (Ready m ids) :=
  returns_validate hvalid { h with }

theorem ready_checkPath (h : Ready m ids r) {source : Path} (hsource : source.isEmpty = false) :
    Returns (checkPath source) r () (Ready m ids) :=
  returns_checkPath hsource h

theorem ready_checkFlag (h : Ready m ids r) : Returns checkFlag r () (Ready m ids) :=
  returns_checkFlag h.flag h

theorem ready_read (h : Ready m ids r) (source : Path) :
    Returns (modifyGet fun r : Run Memory =>
      ((Stages.scheduled now schedule).read r.store source,
        { r with journal := { r.journal with reads := r.journal.reads ++ [source] } }))
      r (.ofExcept ((m.read source).map Utf8.lossy)) (Ready m ids) :=
  returns_modifyGet (by rw [h.store]; rfl) { h with }

theorem ready_readText (h : Ready m ids r) {source : Path} {bytes : List UInt8}
    (hread : m.inputs.get? source = some bytes) :
    Returns (readText (.scheduled now schedule) source) r (Utf8.lossy bytes) (Ready m ids) := by
  refine (ready_read h source).bind fun r' h' => ?_
  rw [Memory.read, hread]
  exact returns_perform rfl { h' with flag := by simp [hear, h'.flag, Call.ofExcept, Except.map] }

theorem stopsAt_readText (h : Ready m ids r) {source : Path}
    (hread : m.inputs.get? source = none) :
    StopsAt (readText (.scheduled now schedule) source) r
      (.failed { stage := .reading, cause := .source (.io source (.noInput source)) }) := by
  refine (ready_read h source).bind_stopsAt fun r' h' => ?_
  rw [Memory.read, hread]
  exact stopsAt_perform rfl

/-- Lines that are entries give records in their order, with the next identities. -/
theorem ready_readLines (shape : LineShape) (all : List (List Char)) (number : Nat)
    (pending : List Event) (h : Ready m ids r) :
    Returns (readLines (.scheduled now schedule) shape.parser number pending all) r
      (ids.mintAll (all.filterMap shape.read?)).1
      (Ready m (ids.mintAll (all.filterMap shape.read?)).2) := by
  have hlines : Returns (readLines (.scheduled now schedule) shape.parser number pending all) r
      _ _ := returns_readLines shape all number pending
  obtain ⟨r', hr', events, hnoted⟩ := hlines
  rw [h.ids] at hr' hnoted
  refine ⟨r', hr', ?_⟩
  rw [hnoted]
  exact { store := h.store, flag := h.flag, ids := rfl }

theorem holds_readRecords (h : Ready m ids r) (source : Path) (shape : LineShape)
    (bytes : List UInt8) :
    Returns (readRecords (.scheduled now schedule) source shape.parser
      (Text.lines (Utf8.lossy bytes))) r () (Holds m (recordsOf ids shape bytes)) :=
  (ready_readLines shape _ 1 [] h).bind fun _ h₁ =>
    (returns_modify (P := Ready m _) { h₁ with }).bind fun _ h₂ =>
      returns_modify ⟨h₂.store, h₂.flag, rfl⟩

/-! ## Filtering and processing -/

theorem holds_selectRecords (h : Holds m records r) {selection : FilterSettings}
    {kept : List Record} (hkept : selection.chosen records = .ok kept) :
    Returns (selectRecords (.scheduled now schedule) selection) r () (Holds m kept) := by
  refine Returns.bind (P := Holds m []) (returns_modifyGet h.records { h with records := rfl })
    fun r₁ h₁ => ?_
  have hcall : ((Stages.scheduled now schedule).select selection records).result =
      .returned kept := by
    simp only [Stages.scheduled, Stages.inMemory, selection.apply_eq_chosen, hkept, Call.ofExcept]
  have hcancels : ((Stages.scheduled now schedule).select selection records).cancels = false := by
    simp only [Stages.scheduled, Stages.inMemory, selection.apply_eq_chosen, hkept, Call.ofExcept]
  refine (returns_perform (P := Holds m []) hcall ?_).bind fun r₂ h₂ =>
    returns_modify ⟨h₂.store, h₂.flag, rfl⟩
  exact { h₁ with flag := by rw [hear, hcancels, h₁.flag]; rfl }

theorem stopsAt_selectRecords (h : Holds m records r) {selection : FilterSettings}
    {e : FilterError} (hkept : selection.chosen records = .error e) :
    StopsAt (selectRecords (.scheduled now schedule) selection) r
      (.failed { stage := .filtering, cause := .filter e }) := by
  refine Returns.bind_stopsAt (P := Holds m [])
    (returns_modifyGet h.records { h with records := rfl }) fun r₁ h₁ => ?_
  have hcall : ((Stages.scheduled now schedule).select selection records).result = .failed e := by
    simp only [Stages.scheduled, Stages.inMemory, selection.apply_eq_chosen, hkept, Call.ofExcept]
  exact (stopsAt_perform hcall).bind _

/-- Work that raises no flag leaves it down under a schedule in which nobody else raises it. -/
theorem flag_run_of_quiet {units : List UnitCall} (hunits : ∀ c ∈ units, c.cancels = false)
    {steps : Schedule} (hsteps : .raise ∉ steps) : (Pool.run units steps false).flag = false := by
  rw [← Bool.not_eq_true, Pool.run, Pool.flag_steps_iff]
  have hraise : PoolStep.raise ∉ Schedule.inOrder units.length := by simp [Schedule.inOrder]
  rintro (h | h | ⟨u, c, -, hcall, hcancels⟩)
  · cases h
  · rcases List.mem_append.1 h with h | h
    · exact hsteps h
    · exact hraise h
  · rw [hunits c (List.mem_of_getElem? hcall)] at hcancels
    cases hcancels

/-- Telling priorities ends well under every such schedule. -/
theorem processAll_classify {steps : Schedule} (hsteps : .raise ∉ steps) (records : List Record) :
    (processAll classify steps false records).result = .ok records.length ∧
      (processAll classify steps false records).flag = false := by
  set units : List WorkUnit := records.map fun r => { record := r, call := classify r } with hdef
  have hunits : ∀ w ∈ units, w.call.cancels = false ∧ w.entry? = none := by
    intro w hw
    obtain ⟨r, -, rfl⟩ := List.mem_map.1 hw
    exact ⟨rfl, rfl⟩
  have hflag : (Pool.run (units.map (·.call)) steps false).flag = false := by
    refine flag_run_of_quiet (fun c hc => ?_) hsteps
    obtain ⟨w, hw, rfl⟩ := List.mem_map.1 hc
    exact (hunits w hw).1
  have hdown : ∀ u, .looked u true ∉ workHistory units steps false := by
    intro u hu
    have hup := Pool.flag_of_looked_up hu
    rw [Pool.run] at hflag
    rw [hup] at hflag
    cases hflag
  refine ⟨?_, hflag⟩
  have hfull := processUnits_result_of_looked_down units steps false hdown
  rw [fullResult, if_pos (List.filterMap_eq_nil_iff.2 fun w hw => (hunits w hw).2), hdef,
    List.length_map] at hfull
  exact hfull

theorem holds_processRecords (h : Holds m records r) (workers : Nat)
    (hschedule : .raise ∉ schedule workers records) :
    Returns (processRecords (.scheduled now schedule) workers) r () (Holds m records) := by
  obtain ⟨hresult, hflag⟩ := processAll_classify hschedule records
  refine Returns.bind (P := Holds m records) (returns_pure () h) fun r₁ h₁ => ?_
  have hrun : Returns (runUnits (.scheduled now schedule) workers) r₁ (.ok records.length)
      (Holds m records) := by
    refine returns_modifyGet ?_ ⟨h₁.store, ?_, h₁.records⟩ <;> rw [h₁.records, h₁.flag]
    · exact hresult
    · exact hflag
  exact hrun.bind fun r₂ h₂ => returns_pure () h₂

/-! ## Reporting and persisting -/

theorem holds_performSafe {α : Type} (h : Holds m records r) (stage : Stage)
    {call : Call Empty α} {a : α} (hcall : call.result = .returned a)
    (hcancels : call.cancels = false) :
    Returns (performSafe (.scheduled now schedule) stage call) r a (Holds m records) :=
  returns_perform hcall { h with flag := by rw [hear, hcancels, h.flag]; rfl }

theorem holds_makeReport (h : Holds m records r) :
    Returns (makeReport (.scheduled now schedule)) r (reportOn now records) (Holds m records) := by
  refine Returns.bind (P := Holds m records) ⟨r, outcome_get r, h⟩ fun r₁ h₁ => ?_
  have hsummary : ((Stages.scheduled now schedule).aggregate r.records).result =
      .returned (Summary.described records) := by
    simp only [Stages.scheduled, Stages.inMemory, h.records, Summary.ofRecords_eq_described]
  refine (holds_performSafe h₁ .reporting hsummary rfl).bind fun r₂ h₂ => ?_
  refine (holds_performSafe h₂ .reporting rfl rfl).bind fun r₃ h₃ => ?_
  exact (holds_performSafe h₃ .reporting rfl rfl).bind fun r₄ h₄ => returns_pure _ h₄

/-- A run over files with these refusals, which holds these records. -/
structure Refuses (refusals : List Path) (records : List Record) (r : Run Memory) : Prop where
  refusals : r.store.refusals = refusals
  records : r.records = records

section Persisting

variable {refusals : List Path} (h : Refuses refusals records r)
include h

theorem refuses_log (events : List Event) :
    Returns (log (.scheduled now schedule) events) r () (Refuses refusals records) :=
  returns_modify { h with }

theorem refuses_writeFile (cause : IoError → Cause) {path : Path}
    (hpath : (refusals.any fun p => p.same path) = false) (bytes : List UInt8) :
    Returns (writeFile (.scheduled now schedule) cause path bytes) r ()
      (Refuses refusals records) := by
  have hwrite : (Stages.scheduled now schedule).write r.store path bytes =
      ({ r.store with outputs := Shelf.put path bytes r.store.outputs }, .pure ()) := by
    simp only [Stages.scheduled, Stages.inMemory, Memory.write, h.refusals, hpath,
      Bool.false_eq_true, if_false]
  refine Returns.bind (a := .pure ()) (P := Refuses refusals records)
    (returns_modifyGet (by rw [hwrite]) ⟨?_, h.records⟩) fun r₁ h₁ =>
      returns_perform rfl { h₁ with }
  rw [hwrite]
  exact h.refusals

theorem refuses_renderExport {exportTo : Option Path}
    (hformat : ∀ path, exportTo = some path → ∃ format, ExportFormat.ofPath path = .ok format) :
    ∃ bytes, Returns (renderExport (.scheduled now schedule) exportTo) r
      (exportTo.map fun path => (path, bytes)) (Refuses refusals records) := by
  cases exportTo with
  | none => exact ⟨[], returns_pure none h⟩
  | some path =>
    obtain ⟨format, hpath⟩ := hformat path rfl
    refine ⟨exportBytes records format, ?_⟩
    refine Returns.bind (P := Refuses refusals records) ⟨r, outcome_get r, h⟩ fun r₁ h₁ => ?_
    simp only [exportFor, hpath, Except.map, h.records]
    exact (refuses_log h₁ _).bind fun r₂ h₂ => returns_pure _ h₂

theorem refuses_saveReport {output : Path}
    (hpath : (refusals.any fun p => p.same output) = false) (report : Report) :
    Returns (saveReport (.scheduled now schedule) output report) r () (Refuses refusals records) :=
  (refuses_writeFile h _ hpath _).bind fun _ h₁ => refuses_log h₁ _

theorem refuses_saveExport {exported : Option (Path × List UInt8)}
    (hpath : ∀ w, exported = some w → (refusals.any fun p => p.same w.1) = false) :
    Returns (saveExport (.scheduled now schedule) exported) r () (Refuses refusals records) := by
  cases exported with
  | none => exact returns_pure () h
  | some w =>
    refine (refuses_writeFile h _ (hpath w rfl) _).bind fun r₁ h₁ => ?_
    exact Returns.bind (P := Refuses refusals records) ⟨r₁, outcome_get r₁, h₁⟩ fun r₂ h₂ =>
      refuses_log h₂ _

end Persisting

theorem returns_persist (h : Holds m records r) {settings : Settings}
    (hformat : ∀ path, settings.exportTo = some path →
      ∃ format, ExportFormat.ofPath path = .ok format)
    (hpaths : Unrefused m.refusals settings) (report : Report) :
    Returns (persist (.scheduled now schedule) settings report) r ()
      (Refuses m.refusals records) := by
  have hrefuses : Refuses m.refusals records r := ⟨by rw [h.store], h.records⟩
  obtain ⟨bytes, hrender⟩ := refuses_renderExport hrefuses hformat
  refine hrender.bind fun r₁ h₁ =>
    (refuses_saveReport h₁ (hpaths _ (by simp)) report).bind fun r₂ h₂ =>
      refuses_saveExport h₂ fun w hw => ?_
  obtain ⟨path, hpath, rfl⟩ := Option.map_eq_some_iff.1 hw
  exact hpaths path (by simp [hpath])

/-! ## Whole runs -/

theorem holds_readStage (h : Ready m ids r) {request : Request} {settings : Settings}
    {bytes : List UInt8} (hvalid : request.choices.validate = .ok settings)
    (hsource : request.source.isEmpty = false)
    (hread : m.inputs.get? request.source = some bytes) :
    Returns (readStage (.scheduled now schedule) request) r settings
      (Holds m (recordsOf ids settings.shape bytes)) := by
  refine (ready_validate h hvalid).bind fun r₁ h₁ => ?_
  refine Returns.bind (a := ()) (P := Holds m (recordsOf ids settings.shape bytes)) ?_
    fun r₂ h₂ => returns_pure settings h₂
  refine (ready_checkPath h₁ hsource).bind fun r₃ h₃ => (ready_checkFlag h₃).bind fun r₄ h₄ => ?_
  refine (ready_readText h₄ hread).bind fun r₅ h₅ => (ready_checkFlag h₅).bind fun r₆ h₆ => ?_
  exact holds_readRecords h₆ request.source settings.shape bytes

theorem returns_laterStages (h : Holds m records r) {request : Request} {settings : Settings}
    {kept : List Record} (hvalid : request.choices.validate = .ok settings)
    (hkept : settings.selection.chosen records = .ok kept)
    (hschedule : ∀ workers records, .raise ∉ schedule workers records)
    (hpaths : Unrefused m.refusals settings) :
    Returns (laterStages (.scheduled now schedule) settings) r (reportOn now kept)
      (Refuses m.refusals kept) := by
  refine (holds_enter h .filtering).bind fun r₁ h₁ => ?_
  refine (holds_selectRecords h₁ hkept).bind fun r₂ h₂ => ?_
  refine (holds_enter h₂ .processing).bind fun r₃ h₃ => ?_
  refine (holds_processRecords h₃ settings.workers (hschedule _ _)).bind fun r₄ h₄ => ?_
  refine (holds_enter h₄ .reporting).bind fun r₅ h₅ => ?_
  refine (holds_makeReport h₅).bind fun r₆ h₆ => ?_
  refine (holds_enter h₆ .persisting).bind fun r₇ h₇ => ?_
  have hformat : ∀ path, settings.exportTo = some path →
      ∃ format, ExportFormat.ofPath path = .ok format :=
    fun _ hpath => Choices.ofPath_of_validate hvalid hpath
  exact (returns_persist h₇ hformat hpaths _).bind fun r₈ h₈ => returns_pure _ h₈

theorem stopsAt_laterStages (h : Holds m records r) {settings : Settings} {e : FilterError}
    (hkept : settings.selection.chosen records = .error e) :
    StopsAt (laterStages (.scheduled now schedule) settings) r
      (.failed { stage := .filtering, cause := .filter e }) :=
  (holds_enter h .filtering).bind_stopsAt fun _ h₁ => (stopsAt_selectRecords h₁ hkept).bind _

theorem stopsAt_readStage (h : Ready m ids r) {request : Request} {settings : Settings}
    (hvalid : request.choices.validate = .ok settings)
    (hsource : request.source.isEmpty = false) (hread : m.inputs.get? request.source = none) :
    StopsAt (readStage (.scheduled now schedule) request) r (.failed
      { stage := .reading
        cause := .source (.io request.source (.noInput request.source)) }) := by
  refine (ready_validate h hvalid).bind_stopsAt fun r₁ h₁ => StopsAt.bind ?_ _
  refine (ready_checkPath h₁ hsource).bind_stopsAt fun r₂ h₂ =>
    (ready_checkFlag h₂).bind_stopsAt fun r₃ h₃ => ?_
  exact (stopsAt_readText h₃ hread).bind _

/-- The stages come to what the request, the files and the counter say. -/
theorem stagesInOrder_result (h : Ready m ids r) (request : Request)
    (hschedule : ∀ workers records, .raise ∉ schedule workers records)
    (hpaths : ∀ settings, request.choices.validate = .ok settings →
      Unrefused m.refusals settings) :
    (outcome (stagesInOrder (.scheduled now schedule) request) r).1 =
      (request.expected now m.inputs ids).mapError .failed := by
  have henter : Returns (enter (.scheduled now schedule) .reading) r () (Ready m ids) :=
    ready_enter h .reading
  have hstop : ∀ stop, (∀ r₁, Ready m ids r₁ →
      StopsAt (readStage (.scheduled now schedule) request) r₁ stop) →
        (outcome (stagesInOrder (.scheduled now schedule) request) r).1 = .error stop :=
    fun stop hread => (henter.bind_stopsAt fun r₁ h₁ => (hread r₁ h₁).bind _).result
  rw [Request.expected]
  cases hvalid : request.choices.validate with
  | error e => exact hstop _ fun r₁ _ => (stopsAt_validate hvalid).bind _
  | ok settings =>
    dsimp only
    cases hsource : request.source.isEmpty with
    | true =>
      exact hstop _ fun r₁ h₁ => (ready_validate h₁ hvalid).bind_stopsAt fun r₂ _ =>
        ((stopsAt_checkPath hsource).bind _).bind _
    | false =>
      cases hread : m.inputs.get? request.source with
      | none => exact hstop _ fun r₁ h₁ => stopsAt_readStage h₁ hvalid hsource hread
      | some bytes =>
        dsimp only
        cases hkept : settings.selection.chosen (recordsOf ids settings.shape bytes) with
        | error e =>
          refine (henter.bind_stopsAt fun r₁ h₁ => ?_).result
          exact (holds_readStage h₁ hvalid hsource hread).bind_stopsAt fun r₂ h₂ =>
            stopsAt_laterStages h₂ hkept
        | ok kept =>
          refine Returns.result (P := Refuses m.refusals kept) (henter.bind fun r₁ h₁ => ?_)
          exact (holds_readStage h₁ hvalid hsource hread).bind fun r₂ h₂ =>
            returns_laterStages h₂ hvalid hkept hschedule (hpaths settings hvalid)

end Run

/-- **A run comes to what it should.** Whatever an analyzer holds from earlier runs, with its flag
down and nobody who raises it, with workers that share the work in any way, and with files that
take what is to be written, the result of a run is a function of the request, the files and the
counter of identities. -/
theorem Analyzer.analyze_eq_expected (now : Timestamp) (schedule : Nat → List Record → Schedule)
    (hschedule : ∀ workers records, .raise ∉ schedule workers records) (a : Analyzer Memory)
    (hflag : a.flag = false) (request : Request)
    (hpaths : ∀ settings, request.choices.validate = .ok settings →
      Unrefused a.store.refusals settings) :
    (a.analyze (.scheduled now schedule) request).result =
      (request.expected now a.store.inputs a.ids).mapError .failed :=
  Run.stagesInOrder_result (m := a.store) ⟨rfl, hflag, rfl⟩ request hschedule hpaths

/-- A run over one line comes to the report on it, also after a run that failed. -/
theorem Analyzer.analyze_eq_expected_oneLine :
    let a : Analyzer Memory := { store := oneLine, state := .failed .reporting, finalizations := 1 }
    (a.analyze (.scheduled newYear fun _ _ => [.look 0]) exporting).result =
        (exporting.expected newYear oneLine.inputs a.ids).mapError .failed ∧
      ((exporting.expected newYear oneLine.inputs a.ids).map fun report => report.summary.total) =
        .ok 1 := by
  intro a
  have hrefusals : a.store.refusals = [] := by decide +kernel
  refine ⟨analyze_eq_expected newYear (fun _ _ => [.look 0]) (by simp) a rfl exporting
    fun settings _ path _ => ?_, by decide +kernel⟩
  rw [hrefusals]
  rfl

end LogDigest
