import LogDigest.Proofs.Run.Twins

/-!
# Stages of twin runs

Every part of a stage takes twins to twins, one lemma for each part.

Up to the end of reading nothing is asked of the records, as none are there. From then on shifting
has to keep their order (`Aligned`), since failures of the work on them are sorted by identity. Only
what is persisted tells the runs apart.
-/

namespace LogDigest.Run

variable {σ α : Type} {stages : Stages σ} {R : σ → σ → Prop} {d : UInt64}
  {fit : List Record → Prop} {ws ws' : List (Path × List UInt8)}

/-! ## Reading -/

theorem agree_checkPath (source : Path) :
    Agree R d (Twin R d fit [] []) (checkPath source) (checkPath source)
      fun _ _ => Twin R d fit [] [] := by
  unfold checkPath
  split
  · exact .fail rfl .none
  · exact .pure fun _ _ h => h

theorem agree_checkFlag :
    Agree R d (Twin R d fit [] []) checkFlag checkFlag fun _ _ => Twin R d fit [] [] := by
  refine Agree.get.bind fun r s => .assume fun h => ?_
  rw [h.flag]
  split
  · exact .fail rfl .none
  · exact .pure fun _ _ h => h

section Reading

variable (hR : stages.Respects d R)
include hR

theorem agree_validate (request : Request) :
    Agree R d (Twin R d fit [] []) (validate stages request) (validate stages request)
      fun a b r s => b = a ∧ Twin R d fit [] [] r s := by
  unfold validate
  split
  · exact .fail rfl .none
  · exact (Agree.log hR _ _).bind fun _ _ => .pure fun _ _ h => ⟨rfl, h⟩

theorem agree_readText (source : Path) :
    Agree R d (Twin R d fit [] []) (readText stages source) (readText stages source)
      fun a b r s => b = a ∧ Twin R d fit [] [] r s := by
  refine Agree.bind (Q := fun call call' r s => call'.quiet = call.quiet ∧ Twin R d fit [] [] r s)
    (.modifyGet fun r s h => ⟨hR.read source h.store, { h with }⟩) fun call call' => ?_
  exact .assume fun hcall => .performSame hR hcall (fun _ => rfl) .none

/-- The lines are the same, so a blind parser makes the same records of them but for identities
that are `d` apart. It may log something else. -/
theorem agree_readLines {parser : LineParser} (hparser : parser.Blind d) (number : Nat)
    (pending pending' : List Event) (all : List (List Char)) :
    Agree R d (Twin R d fit [] []) (readLines stages parser number pending all)
      (readLines stages parser number pending' all)
      fun a b r s => b = a.map (·.shift d) ∧ Twin R d fit [] [] r s := by
  induction all generalizing number pending pending' with
  | nil => exact (Agree.log hR _ _).bind fun _ _ => .pure fun _ _ h => ⟨rfl, h⟩
  | cons line all ih =>
    rw [readLines, readLines]
    refine Agree.bind (Q := fun call call' r s =>
        call'.quiet = (call.map id (·.map (·.shift d))).quiet ∧ Twin R d fit [] [] r s)
      (.modifyGet fun r s h => ?_) fun call call' => .assume fun hcall => ?_
    · have hids : s.ids = ⟨r.ids.next + d⟩ := congrArg IdCounter.mk h.ids
      obtain ⟨hquiet, hnext⟩ := hparser line r.ids
      rw [← hids] at hquiet hnext
      have hup : (s.flag || (parser.parse line s.ids).1.cancels) =
          (r.flag || (parser.parse line r.ids).1.cancels) := by
        rw [h.flag, (Call.eq_of_quiet hquiet).2]
        rfl
      exact ⟨hquiet, { h with flag := hup, ids := hnext }⟩
    · obtain ⟨hresult, -⟩ := Call.eq_of_quiet hcall
      dsimp only
      rw [hresult, Call.map]
      rcases call.result with (_ | record) | e | message
      · exact ih _ _ _
      · refine (ih _ _ _).bind fun records records' => .pure fun r s h => ?_
        rw [h.1]
        exact ⟨rfl, h.2⟩
      · contradiction
      · exact (Agree.log hR _ _).bind fun _ _ => .unwound _ .none

theorem agree_readRecords (source : Path) {parser : LineParser} (hparser : parser.Blind d)
    (all : List (List Char)) :
    Agree R d (Twin R d (fun _ => True) [] []) (readRecords stages source parser all)
      (readRecords stages source parser all) fun _ _ => Twin R d (fun _ => True) [] [] := by
  refine (agree_readLines hR hparser 1 [] [] all).bind fun records records' =>
    .assume fun hrecords => (Agree.log hR _ _).bind fun _ _ => .modify fun r s h => ?_
  exact { h with records := hrecords, stats := by simp [hrecords] }

theorem agree_readStage (hblind : stages.Blind d) (request : Request) :
    Agree R d (Twin R d (fun _ => True) [] []) (readStage stages request)
      (readStage stages request) fun a b r s => b = a ∧ Twin R d (fun _ => True) [] [] r s := by
  refine (agree_validate hR request).bind fun settings settings' => .assume fun hsettings => ?_
  subst hsettings
  refine Agree.bind (Q := fun _ _ => Twin R d (fun _ => True) [] []) ?_ fun _ _ =>
    .pure fun _ _ h => ⟨rfl, h⟩
  refine (agree_checkPath _).bind fun _ _ => agree_checkFlag.bind fun _ _ => ?_
  refine (agree_readText hR _).bind fun text text' => .assume fun htext => ?_
  rw [htext]
  exact agree_checkFlag.bind fun _ _ => agree_readRecords hR _ (hblind.parser_getD _) _

end Reading

/-! ## Filtering, processing and reporting -/

section Records

variable (hR : stages.Respects d R) (hblind : stages.Blind d)
include hR hblind

theorem agree_selectRecords (selection : FilterSettings) :
    Agree R d (Twin R d (Aligned d) [] []) (selectRecords stages selection)
      (selectRecords stages selection) fun _ _ => Twin R d (Aligned d) [] [] := by
  refine Agree.bind (Q := fun a b r s => (Aligned d a ∧ b = a.map (·.shift d)) ∧
      Twin R d (Aligned d) [] [] r s)
    (.modifyGet fun r s h => ⟨⟨h.fit, h.records⟩, { h with records := rfl, fit := aligned_nil d }⟩)
    fun parsed parsed' => .assume fun ⟨haligned, hparsed⟩ => ?_
  rw [hparsed]
  refine (Agree.perform hR (hblind.select selection parsed) (fun _ => rfl) .none).bind
    fun kept kept' => .assume fun ⟨hreturned, hkept⟩ => .modify fun r s h => ?_
  exact { h with records := hkept, fit := hblind.aligned selection parsed kept hreturned haligned }

omit hR hblind in
theorem agree_startWorkers (workers : Nat) :
    Agree R d (Twin R d fit [] []) (startWorkers stages workers) (startWorkers stages workers)
      fun _ _ => Twin R d fit [] [] := by
  unfold startWorkers
  split
  · exact .pure fun _ _ h => h
  · exact .fail rfl .none

theorem agree_runUnits (workers : Nat) :
    Agree R d (Twin R d (Aligned d) [] []) (runUnits stages workers) (runUnits stages workers)
      fun a b r s => b = a.mapError (·.shift d) ∧ Twin R d (Aligned d) [] [] r s := by
  refine .modifyGet fun r s h => ?_
  obtain ⟨hresult, hflag⟩ := processAll_shift hblind.processor h.fit
    (stages.schedule workers r.records) r.flag
  have hsame : processAll stages.processor (stages.schedule workers s.records) s.flag s.records =
      processAll stages.processor (stages.schedule workers r.records) r.flag
        (r.records.map (·.shift d)) := by
    rw [h.records, h.flag, hblind.schedule]
  simp only [hsame]
  exact ⟨hresult, { ((h.note hR _ _).noteUnits hR _ _).note hR _ _ with flag := hflag }⟩

theorem agree_processRecords (workers : Nat) :
    Agree R d (Twin R d (Aligned d) [] []) (processRecords stages workers)
      (processRecords stages workers) fun _ _ => Twin R d (Aligned d) [] [] := by
  refine (agree_startWorkers workers).bind fun _ _ =>
    (agree_runUnits hR hblind workers).bind fun result result' => .assume fun hresult => ?_
  subst hresult
  cases result with
  | ok n => exact .pure fun _ _ h => h
  | error e => exact .fail rfl .none

omit hblind in
theorem agree_performSafe {stage : Stage} {call call' : Call Empty α}
    (hcall : call'.quiet = call.quiet) :
    Agree R d (Twin R d fit [] []) (performSafe stages stage call) (performSafe stages stage call')
      fun a b r s => b = a ∧ Twin R d fit [] [] r s :=
  .performSame hR hcall (fun e => nomatch e) .none

theorem agree_makeReport :
    Agree R d (Twin R d fit [] []) (makeReport stages) (makeReport stages)
      fun a b r s => b = a ∧ Twin R d fit [] [] r s := by
  refine Agree.get.bind fun r s => .assume fun h => ?_
  refine (agree_performSafe hR (by rw [h.records, hblind.aggregate])).bind
    fun summary summary' => .assume fun hsummary => ?_
  refine (agree_performSafe hR rfl).bind fun time time' => .assume fun htime => ?_
  subst hsummary htime
  refine (agree_performSafe hR rfl).bind fun body body' => .assume fun hbody => ?_
  exact .pure fun _ _ h => ⟨by rw [hbody], h⟩

end Records

/-! ## Persisting -/

/-- What is to be exported, before and after shifting. -/
inductive ExportTwin (d : UInt64) :
    Option (Path × List UInt8) → Option (Path × List UInt8) → Prop
  | none : ExportTwin d none none
  | some {path : Path} {records : List Record} {bytes bytes' : List UInt8}
      (before : exportFor path records = .ok bytes)
      (after : exportFor path (records.map (·.shift d)) = .ok bytes') :
      ExportTwin d (some (path, bytes)) (some (path, bytes'))

section Persisting

variable (hR : stages.Respects d R)
include hR

theorem agree_renderExport (exportTo : Option Path) :
    Agree R d (Twin R d fit [] []) (renderExport stages exportTo) (renderExport stages exportTo)
      fun a b r s => ExportTwin d a b ∧ Twin R d fit [] [] r s := by
  cases exportTo with
  | none => exact .pure fun _ _ h => ⟨.none, h⟩
  | some path =>
    refine Agree.get.bind fun r s => .assume fun h => ?_
    dsimp only
    rw [h.records, exportFor]
    cases hformat : ExportFormat.ofPath path with
    | error e =>
      rw [exportFor, hformat]
      exact .fail rfl .none
    | ok format =>
      have hexport : ∀ records, exportFor path records = .ok (exportBytes records format) :=
        fun records => by rw [exportFor, hformat]; rfl
      rw [hexport]
      exact (Agree.log hR _ _).bind fun _ _ => .pure fun _ _ h => ⟨.some (hexport _) (hexport _), h⟩

/-- Writing keeps twins if it writes what the twins may write next. -/
theorem agree_writeFile {cause : IoError → Cause} (hcause : ∀ e, cause e = (cause e).shift d)
    {path : Path} {bytes bytes' : List UInt8} (hbytes : Reworded d path bytes bytes')
    (hws : Rewritten d (ws ++ [(path, bytes)]) (ws' ++ [(path, bytes')])) :
    Agree R d (Twin R d fit ws ws') (writeFile stages cause path bytes)
      (writeFile stages cause path bytes')
      fun _ _ => Twin R d fit (ws ++ [(path, bytes)]) (ws' ++ [(path, bytes')]) := by
  refine Agree.bind (Q := fun call call' r s => call'.quiet = call.quiet ∧
      Twin R d fit (ws ++ [(path, bytes)]) (ws' ++ [(path, bytes')]) r s)
    (.modifyGet fun r s h => ?_) fun call call' => .assume fun hcall => ?_
  · obtain ⟨hquiet, hstore⟩ := hR.write h.store hbytes
    exact ⟨hquiet, { h with
      store := hstore, writes := by rw [← h.writes], writes' := by rw [← h.writes'] }⟩
  · exact (Agree.performSame hR hcall hcause hws).imp fun _ _ _ _ h => h.2

theorem agree_persist (settings : Settings) (report : Report) :
    Agree R d (Twin R d fit [] []) (persist stages settings report) (persist stages settings report)
      fun _ _ => StoppedTwin R d := by
  refine (agree_renderExport hR settings.exportTo).bind fun exported exported' =>
    .assume fun hexported => ?_
  refine Agree.bind (Q := fun _ _ => Twin R d fit _ _)
    ((agree_writeFile hR (fun _ => rfl) (.same _) (.report _)).bind fun _ _ => .log hR _ _)
    fun _ _ => ?_
  cases hexported with
  | none => exact .pure fun _ _ h => h.stopped (.report _)
  | some before after =>
    refine (agree_writeFile hR (fun _ => rfl) (.exported before after)
      (.export _ before after)).bind fun _ _ => ?_
    refine (Agree.get.bind fun r s => .assume fun _ => .log hR _ _).imp fun _ _ _ _ h => ?_
    exact h.stopped (.export _ before after)

end Persisting

/-- After reading, twins do the same but for what they persist. -/
theorem agree_laterStages (hR : stages.Respects d R) (hblind : stages.Blind d)
    (settings : Settings) :
    Agree R d (Twin R d (Aligned d) [] []) (laterStages stages settings)
      (laterStages stages settings) fun a b r s => b = a ∧ StoppedTwin R d r s := by
  refine (Agree.enter hR _).bind fun _ _ => (agree_selectRecords hR hblind _).bind fun _ _ => ?_
  refine (Agree.enter hR _).bind fun _ _ => (agree_processRecords hR hblind _).bind fun _ _ => ?_
  refine (Agree.enter hR _).bind fun _ _ => (agree_makeReport hR hblind).bind
    fun report report' => .assume fun hreport => ?_
  subst hreport
  refine (Agree.enter hR _).bind fun _ _ => (agree_persist hR settings report').bind fun _ _ => ?_
  exact .pure fun _ _ h => ⟨rfl, h⟩

end LogDigest.Run
