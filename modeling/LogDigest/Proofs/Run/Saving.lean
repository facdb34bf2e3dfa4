import LogDigest.Proofs.Run.Writing

/-!
# What a run that ends well has saved

A run over files in memory that ends well was refused nothing, so what was due was written: the
export is under its path, and without an export the report is under its own
(`analyze_saved`).

**The report may be gone.** The two files are written one after the other, and the paths come from
two settings that are read apart. If they name the same file, the export takes the place of the
report, and the run ends well all the same. Otherwise both are there.
-/

namespace LogDigest

/-- Files that are not refused are put down one after the other. -/
theorem Memory.outputs_saveAll {m : Memory} {ws : List (Path × List UInt8)}
    (h : ∀ w ∈ ws, ¬ m.Refuses w.1) :
    (m.saveAll ws).outputs = ws.foldl (fun s w => Shelf.put w.1 w.2 s) m.outputs := by
  induction ws generalizing m with
  | nil => rfl
  | cons w ws ih =>
    have hfirst : ¬ m.Refuses w.1 := h w (by simp)
    have hrest : ∀ v ∈ ws, ¬ (m.save w.1 w.2).1.Refuses v.1 := by
      intro v hv
      rw [(SameBut.save m w.1 w.2).refuses_iff]
      exact h v (by simp [hv])
    rw [saveAll, if_neg hfirst, ih hrest, save_of_not_refuses hfirst, List.foldl_cons]

/-- What is under the paths of a request after its findings were saved. -/
structure Findings.SavedTo (f : Findings) (files : Shelf) : Prop where
  /-- The export is under its path. -/
  exported : ∀ path, f.settings.exportTo = some path →
    ∃ bytes, exportFor path f.kept = .ok bytes ∧ files.get? path = some bytes
  /-- The report is under its path, unless the export, with other bytes, names the same file. -/
  report : files.get? f.settings.output = some (Utf8.encode f.report.body.toList) ↔
    ∀ path, f.settings.exportTo = some path → f.settings.output.same path = true →
      exportFor path f.kept = .ok (Utf8.encode f.report.body.toList)

theorem Findings.Fit.savedTo {σ : Type} {stages : Stages σ} {request : Request} {store : σ}
    {ids : IdCounter} {f : Findings} (h : f.Fit stages request store ids) {m : Memory}
    (hm : ∀ w ∈ f.due, ¬ m.Refuses w.1) : f.SavedTo (m.saveAll f.due).outputs := by
  have hexported := h.exported
  have houtputs := Memory.outputs_saveAll hm
  cases hto : f.settings.exportTo with
  | none =>
    rw [hto] at hexported
    have hnone : f.exported = none := hexported
    refine ⟨fun path hpath => ?_, iff_of_true ?_ fun path hpath => ?_⟩
    · rw [hto] at hpath
      cases hpath
    · rw [houtputs]
      simp only [due, hnone, Option.toList_none, List.foldl_cons, List.foldl_nil, Shelf.get?_put,
        Path.same_self, if_true]
    · rw [hto] at hpath
      cases hpath
  | some path =>
    rw [hto] at hexported
    obtain ⟨bytes, hbytes, hsome⟩ := hexported
    have hget : ∀ q, (m.saveAll f.due).outputs.get? q =
        if path.same q then some bytes
        else if f.settings.output.same q then some (Utf8.encode f.report.body.toList)
        else m.outputs.get? q := by
      intro q
      rw [houtputs]
      simp only [due, hsome, Option.toList_some, List.foldl_cons, List.foldl_nil, Shelf.get?_put]
    have hsame : path.same f.settings.output = f.settings.output.same path := by
      rw [Bool.eq_iff_iff, Path.same_iff, Path.same_iff]
      exact eq_comm
    refine ⟨fun path' hpath => ?_, ?_⟩
    · rw [hto] at hpath
      cases hpath
      exact ⟨bytes, hbytes, by rw [hget, if_pos path.same_self]⟩
    · rw [hget, hsame, if_pos f.settings.output.same_self]
      by_cases hpath : f.settings.output.same path = true
      · rw [if_pos hpath]
        constructor
        · intro heq path' hpath' _
          rw [hto] at hpath'
          cases hpath'
          rw [hbytes, Option.some_inj.1 heq]
        · intro hall
          have heq := hall path hto hpath
          rw [hbytes] at heq
          cases heq
          rfl
      · rw [if_neg hpath]
        refine iff_of_true rfl fun path' hpath' hsame' => ?_
        rw [hto] at hpath'
        cases hpath'
        exact absurd hsame' hpath

namespace Analyzer

/-- **A run that ends well has saved what it found**: the report it returns and, if there is an
export, the records that the settings select, written out. All of it is there at the end, but for a
report whose path and the path of the export name the same file. -/
theorem analyze_saved (stages : Stages Memory) (a : Analyzer Memory) (request : Request)
    {report : Report} (h : (a.analyze stages.overMemory request).result = .ok report) :
    ∃ f : Findings, f.Fit stages.overMemory request a.store a.ids ∧ f.report = report ∧
      f.SavedTo (a.analyze stages.overMemory request).analyzer.store.outputs := by
  rcases analyze_overMemory stages a request with ⟨⟨stop, hstop⟩, -⟩ | ⟨f, hf, hstore, hok⟩
  · rw [h] at hstop
    cases hstop
  · obtain ⟨rfl, hrefused⟩ := hok report h
    refine ⟨f, hf, rfl, ?_⟩
    rw [hstore]
    exact hf.savedTo hrefused

/-- A run over the log has saved the report and the records. -/
theorem analyze_saved_oneLine :
    let o := (new oneLine {}).analyze (Stages.inMemory newYear).overMemory exporting
    ∃ report, o.result = .ok report ∧
      ∃ f : Findings, f.report = report ∧ f.SavedTo o.analyzer.store.outputs := by
  intro o
  have hok : o.result.isOk = true := by decide +kernel
  cases hresult : o.result with
  | error stop =>
    rw [hresult] at hok
    cases hok
  | ok report =>
    obtain ⟨f, -, hf, hsaved⟩ :=
      analyze_saved (.inMemory newYear) (new oneLine {}) exporting hresult
    exact ⟨report, rfl, f, hf, hsaved⟩

/-- A run that is to save the report and the records to the same file. -/
@[irreducible] def oneFile : Request where
  source := ⟨"app.log"⟩
  choices := ((({} : Choices).set .logLevel "Info").set .outputPath "out.csv").set
    .exportPath "out.csv"

/-- A run that ends well, with valid settings, may leave no report. -/
theorem analyze_oneFile_loses_report :
    let o := (new oneLine {}).analyze (.inMemory newYear) oneFile
    oneFile.choices.validate.isOk ∧ o.analyzer.state = .done ∧
      ∃ report, o.result = .ok report ∧
        o.analyzer.store.outputs.get? ⟨"out.csv"⟩ ≠ some (Utf8.encode report.body.toList) := by
  intro o
  obtain ⟨hvalid, hstate, hok, hlost⟩ : oneFile.choices.validate.isOk = true ∧
      o.analyzer.state = .done ∧ o.result.isOk = true ∧ ∀ report ∈ o.result.toOption,
        o.analyzer.store.outputs.get? ⟨"out.csv"⟩ ≠ some (Utf8.encode report.body.toList) := by
    decide +kernel
  refine ⟨hvalid, hstate, ?_⟩
  cases hresult : o.result with
  | error stop =>
    rw [hresult] at hok
    cases hok
  | ok report => exact ⟨report, rfl, hlost report (by rw [hresult]; rfl)⟩

end Analyzer

end LogDigest
