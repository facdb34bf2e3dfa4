import LogDigest.Proofs.Run.Act
import LogDigest.Proofs.Run.Schedules

/-!
# Parts of stages

Every part of a stage is an act inside the stage (`Inside`), whatever the replaceable parts do.
-/

namespace LogDigest.Run

variable {σ α : Type}

theorem Stays.ofReading {r r' : Run σ} (standing : r'.standing = r.standing)
    (flag : r.flag = true → r'.flag = true) (writes : r'.journal.writes = r.journal.writes) :
    Stays .reading r r' :=
  ⟨standing, flag, fun h => absurd rfl h, fun h => absurd rfl h, fun h => absurd rfl h,
    fun _ => writes⟩

theorem Stays.setRecords {stage : Stage} (r : Run σ) (records : List Record) :
    Stays stage r { r with records } :=
  ⟨rfl, id, fun _ => rfl, fun _ => rfl, fun _ => rfl, fun _ => rfl⟩

/-! ## Reading -/

theorem inside_validate (stages : Stages σ) (request : Request) :
    Inside .reading (validate stages request) := by
  unfold validate
  split
  · exact .fail rfl
  · exact (Inside.log ..).bind fun _ => .pure _

theorem inside_parseLine (parser : LineParser) (line : List Char) :
    Inside .reading (parseLine parser line : Act σ _) :=
  .modifyGet fun _ => .ofReading rfl (fun h => by simp [h]) rfl

theorem inside_readLines (stages : Stages σ) (parser : LineParser) (number : Nat)
    (pending : List Event) (all : List (List Char)) :
    Inside .reading (readLines stages parser number pending all) := by
  induction all generalizing number pending with
  | nil => exact (Inside.log ..).bind fun _ => .pure _
  | cons line all ih =>
    rw [readLines]
    refine (inside_parseLine parser line).bind fun call => ?_
    dsimp only
    split
    · exact (ih _ _).bind fun _ => .pure _
    · exact ih _ _
    · contradiction
    · exact (Inside.log ..).bind fun _ => .unwound _

theorem inside_checkPath (source : Path) : Inside .reading (checkPath source : Act σ Unit) := by
  unfold checkPath
  split
  · exact .fail rfl
  · exact .pure _

theorem inside_checkFlag : Inside .reading (checkFlag : Act σ Unit) := by
  refine Inside.get.bind fun r => ?_
  split
  · exact .fail rfl
  · exact .pure _

theorem inside_readText (stages : Stages σ) (source : Path) :
    Inside .reading (readText stages source) :=
  (Inside.modifyGet fun _ => .ofReading rfl id rfl).bind fun _ => .perform fun _ => by rfl

theorem inside_readRecords (stages : Stages σ) (source : Path) (parser : LineParser)
    (all : List (List Char)) : Inside .reading (readRecords stages source parser all) :=
  (inside_readLines stages parser 1 [] all).bind fun _ =>
    (Inside.log ..).bind fun _ => .modify fun _ => .ofReading rfl id rfl

theorem inside_readSource (stages : Stages σ) (source : Path) (shape : LineShape) :
    Inside .reading (readSource stages source shape) :=
  (inside_checkPath source).bind fun _ => inside_checkFlag.bind fun _ =>
    (inside_readText stages source).bind fun _ => inside_checkFlag.bind fun _ =>
      inside_readRecords ..

theorem inside_readStage (stages : Stages σ) (request : Request) :
    Inside .reading (readStage stages request) :=
  (inside_validate ..).bind fun _ => (inside_readSource ..).bind fun _ => .pure _

/-! ## Filtering and processing -/

theorem inside_selectRecords (stages : Stages σ) (selection : FilterSettings) :
    Inside .filtering (selectRecords stages selection) :=
  (Inside.modifyGet fun r => .setRecords r []).bind fun _ =>
    (Inside.perform fun _ => by rfl).bind fun records => .modify fun r => .setRecords r records

theorem inside_startWorkers (stages : Stages σ) (workers : Nat) :
    Inside .processing (startWorkers stages workers) := by
  unfold startWorkers
  split
  · exact .pure _
  · exact .fail rfl

theorem inside_runUnits (stages : Stages σ) (workers : Nat) :
    Inside .processing (runUnits stages workers) := by
  have hflag : ∀ r : Run σ, r.flag = true →
      (outcome (runUnits stages workers) r).2.flag = true :=
    fun r h => (Pool.flag_steps_iff _ _).2 (Or.inl h)
  exact .modifyGet fun r =>
    ⟨rfl, hflag r, fun _ => rfl, fun _ => rfl, fun _ => rfl, fun _ => rfl⟩

theorem inside_processRecords (stages : Stages σ) (workers : Nat) :
    Inside .processing (processRecords stages workers) := by
  refine (inside_startWorkers stages workers).bind fun _ =>
    (inside_runUnits stages workers).bind fun result => ?_
  split
  · exact .pure _
  · exact .fail rfl

/-! ## Reporting and persisting -/

theorem inside_performSafe (stages : Stages σ) (stage : Stage) (call : Call Empty α) :
    Inside stage (performSafe stages stage call) :=
  .perform fun e => nomatch e

theorem inside_makeReport (stages : Stages σ) : Inside .reporting (makeReport stages) :=
  Inside.get.bind fun _ => (inside_performSafe ..).bind fun _ =>
    (inside_performSafe ..).bind fun _ => (inside_performSafe ..).bind fun _ => .pure _

theorem inside_writeFile {stages : Stages σ} {cause : IoError → Cause}
    (h : ∀ e, (cause e).stage = .persisting) (path : Path) (bytes : List UInt8) :
    Inside .persisting (writeFile stages cause path bytes) :=
  (Inside.modifyGet fun _ =>
    ⟨rfl, id, fun _ => rfl, fun _ => rfl, fun _ => rfl, fun h => absurd rfl h⟩).bind fun _ =>
      .perform h

theorem inside_renderExport (stages : Stages σ) (exportTo : Option Path) :
    Inside .persisting (renderExport stages exportTo) := by
  unfold renderExport
  split
  · exact .pure _
  · refine Inside.get.bind fun r => ?_
    dsimp only
    split
    · exact .fail rfl
    · exact (Inside.log ..).bind fun _ => .pure _

theorem inside_saveReport (stages : Stages σ) (output : Path) (report : Report) :
    Inside .persisting (saveReport stages output report) :=
  (inside_writeFile (fun _ => rfl) ..).bind fun _ => .log ..

theorem inside_saveExport (stages : Stages σ) (exported : Option (Path × List UInt8)) :
    Inside .persisting (saveExport stages exported) := by
  unfold saveExport
  split
  · exact .pure _
  · exact (inside_writeFile (fun _ => rfl) ..).bind fun _ => Inside.get.bind fun _ => .log ..

theorem inside_persist (stages : Stages σ) (settings : Settings) (report : Report) :
    Inside .persisting (persist stages settings report) :=
  (inside_renderExport ..).bind fun _ => (inside_saveReport ..).bind fun _ => inside_saveExport ..

end LogDigest.Run
