import LogDigest.Proofs.Run.Reading

/-!
# The course of a run

A run is cut where somebody else may have a say in it: where it looks at the cancel flag, before
and after it reads the text; where the work on the records begins; and where it begins to save.

**What a run found** (`Findings`). Everything that a run is going to save is there before it saves
anything: the settings, the records that were kept, the report, and the records written out for an
export. `untilSaving` is the run up to there, and `save` is the rest. What was found fits the
request (`Findings.Fit`): the settings are the valid ones, the text was read from the source, the
records are those of its lines that were selected, and the report is the one on these records.

**How.** Two kinds of statements are put together along the course of a run. `Keeps` says what an
act leaves as it is, and `Brings` what is known behind an act that comes to its end.
-/

namespace LogDigest

/-! ## What a run found -/

def LineParser.recordsOfLines (parser : LineParser) :
    IdCounter → List (List Char) → List Record
  | _, [] => []
  | ids, line :: lines =>
    let (call, ids) := parser.parse line ids
    match call.result with
    | .returned (some record) => record :: parser.recordsOfLines ids lines
    | .returned none | .failed _ | .unwound _ => parser.recordsOfLines ids lines

def LineParser.records (parser : LineParser) (ids : IdCounter) (text : List Char) : List Record :=
  parser.recordsOfLines ids (Text.lines text)

theorem LineShape.recordsOfLines_eq (shape : LineShape) (ids : IdCounter)
    (all : List (List Char)) :
    shape.parser.recordsOfLines ids all = (ids.mintAll (all.filterMap shape.read?)).1 := by
  induction all generalizing ids with
  | nil => rfl
  | cons line all ih =>
    rw [LineParser.recordsOfLines, shape.parser_parse]
    cases hread : shape.read? line with
    | none =>
      rw [List.filterMap_cons_none hread]
      exact ih ids
    | some e =>
      rw [List.filterMap_cons_some hread]
      exact congrArg ((ids.mint e).1 :: ·) (ih (ids.mint e).2)

/-- The parser of a shape gives the entries of a text the next identities in their order. -/
theorem LineShape.records_eq (shape : LineShape) (ids : IdCounter) (text : List Char) :
    shape.parser.records ids text =
      (ids.mintAll ((Text.lines text).filterMap shape.read?)).1 :=
  shape.recordsOfLines_eq ids (Text.lines text)

def Stages.parserFor {σ : Type} (stages : Stages σ) (settings : Settings) : LineParser :=
  stages.parser.getD settings.shape.parser

/-- What is written out of these records, if they are to be exported. -/
def Exports (records : List Record) : Option Path → Option (Path × List UInt8) → Prop
  | none, exported => exported = none
  | some path, exported => ∃ bytes, exportFor path records = .ok bytes ∧
      exported = some (path, bytes)

/-- What a run found before it saves anything. -/
structure Findings where
  settings : Settings
  kept : List Record
  report : Report
  /-- The records written out, and where they go. -/
  exported : Option (Path × List UInt8)

/-- What was found is what the request asks for, with the text that the store gives and identities
from this counter on. -/
structure Findings.Fit {σ : Type} (stages : Stages σ) (request : Request) (store : σ)
    (ids : IdCounter) (f : Findings) : Prop where
  settings : request.choices.validate = .ok f.settings
  kept : ∃ text, (stages.read store request.source).result = .returned text ∧
    (stages.select f.settings.selection
      ((stages.parserFor f.settings).records ids text)).result = .returned f.kept
  summary : (stages.aggregate f.kept).result = .returned f.report.summary
  generatedAt : stages.clock.result = .returned f.report.generatedAt
  body : (stages.render f.report.summary f.report.generatedAt).result = .returned f.report.body
  exported : Exports f.kept f.settings.exportTo f.exported

namespace Run

variable {σ α β γ δ : Type}

/-! ## Cutting the run -/

/-- The run up to its first look at the flag. -/
def untilFirstLook (stages : Stages σ) (request : Request) : Act σ Settings := do
  enter stages .reading
  let settings ← validate stages request
  checkPath request.source
  return settings

/-- The run up to its second look at the flag. -/
def untilSecondLook (stages : Stages σ) (request : Request) : Act σ (Settings × List Char) := do
  let settings ← untilFirstLook stages request
  checkFlag
  let text ← readText stages request.source
  return (settings, text)

/-- The run until the work on the records begins. -/
def untilWork (stages : Stages σ) (request : Request) : Act σ Settings := do
  let (settings, text) ← untilSecondLook stages request
  checkFlag
  readRecords stages request.source (stages.parserFor settings) (Text.lines text)
  enter stages .filtering
  selectRecords stages settings.selection
  enter stages .processing
  startWorkers stages settings.workers
  return settings

def settle : Except ProcessError Nat → Act σ Unit
  | .ok _ => return
  | .error e => fail .processing (.process e)

/-- The run after the work on the records, until it begins to save. -/
def untilFound (stages : Stages σ) (settings : Settings) : Act σ Findings := do
  enter stages .reporting
  let report ← makeReport stages
  enter stages .persisting
  let exported ← renderExport stages settings.exportTo
  return { settings, kept := (← get).records, report, exported }

/-- The run until it begins to save. -/
def untilSaving (stages : Stages σ) (request : Request) : Act σ Findings := do
  let settings ← untilWork stages request
  settle (← runUnits stages settings.workers)
  untilFound stages settings

/-- Saves what was found. -/
def save (stages : Stages σ) (f : Findings) : Act σ Report := do
  saveReport stages f.settings.output f.report
  saveExport stages f.exported
  return f.report

theorem processRecords_eq (stages : Stages σ) (workers : Nat) :
    processRecords stages workers =
      startWorkers stages workers >>= fun _ => runUnits stages workers >>= settle := by
  have hsettle : (settle : Except ProcessError Nat → Act σ Unit) = fun
      | .ok _ => pure ()
      | .error e => fail .processing (.process e) := by
    funext result
    cases result <;> rfl
  rw [hsettle]
  rfl

theorem stagesInOrder_eq_save (stages : Stages σ) (request : Request) :
    stagesInOrder stages request = untilSaving stages request >>= save stages := by
  have hget : ∀ (settings : Settings) (report : Report) (exported : Option (Path × List UInt8)),
      (do let r ← get; save stages { settings, kept := r.records, report, exported } :
        Act σ Report) =
      (do
        saveReport stages settings.output report
        saveExport stages exported
        return report) := fun _ _ _ => rfl
  simp only [stagesInOrder, readStage, readSource, laterStages, persist, processRecords_eq,
    untilSaving, untilFound, untilWork, untilSecondLook, untilFirstLook, Stages.parserFor,
    bind_assoc, pure_bind, hget]

/-! ## What the course keeps -/

theorem keeps_startWorkers {v : Run σ → γ} (stages : Stages σ) (workers : Nat) :
    Keeps v (startWorkers stages workers) := by
  unfold startWorkers
  split
  · exact .pure _
  · exact .fail _ _

theorem keeps_settle {v : Run σ → γ} (result : Except ProcessError Nat) :
    Keeps v (settle result : Act σ Unit) := by
  cases result with
  | ok n => exact .pure _
  | error e => exact .fail _ _

/-- What a run shows of its files, what it wrote, and what it shows of its counter and records. -/
def sight (p : σ → γ) (q : IdCounter × List Record → δ) (r : Run σ) :
    γ × List (Path × List UInt8) × δ :=
  (p r.store, r.journal.writes, q (r.ids, r.records))

section Sight

variable {stages : Stages σ} {p : σ → γ} {q : IdCounter × List Record → δ}
  (hp : ∀ s events, p (stages.log s events) = p s)
include hp

theorem sight_note (r : Run σ) (events : List Event) :
    sight p q (note stages r events) = sight p q r := by
  simp only [sight, note, hp]

theorem sight_log (events : List Event) : Keeps (sight p q) (log stages events) :=
  keeps_log (sight_note hp) events

theorem sight_enter (stage : Stage) : Keeps (sight p q) (enter stages stage) :=
  .modify fun r => sight_note hp r _

theorem sight_perform {ε : Type} (stage : Stage) (cause : ε → Cause) (call : Call ε α) :
    Keeps (sight p q) (perform stages stage cause call) :=
  keeps_perform (sight_note hp) (fun _ _ => rfl) stage cause call

theorem sight_validate (request : Request) : Keeps (sight p q) (validate stages request) :=
  keeps_validate (sight_note hp) request

theorem sight_readText (source : Path) : Keeps (sight p q) (readText stages source) :=
  .bind (.modifyGet fun _ => rfl) fun _ => sight_perform hp _ _ _

theorem sight_runUnits (workers : Nat) : Keeps (sight p q) (runUnits stages workers) :=
  .modifyGet fun r => by simp only [sight, note, noteUnits, hp]

theorem sight_makeReport : Keeps (sight p q) (makeReport stages) :=
  .bind .get fun _ => .bind (sight_perform hp _ _ _) fun _ =>
    .bind (sight_perform hp _ _ _) fun _ => .bind (sight_perform hp _ _ _) fun _ => .pure _

theorem sight_renderExport (exportTo : Option Path) :
    Keeps (sight p q) (renderExport stages exportTo) := by
  unfold renderExport
  split
  · exact .pure _
  · refine Keeps.get.bind fun r => ?_
    dsimp only
    split
    · exact .fail _ _
    · exact (sight_log hp _).bind fun _ => .pure _

theorem sight_readLines (parser : LineParser) (number : Nat) (pending : List Event)
    (all : List (List Char)) :
    Keeps (sight p fun _ => ()) (readLines stages parser number pending all) :=
  keeps_readLines (sight_note hp) (fun _ _ => rfl) (fun _ _ => rfl) parser number pending all

theorem sight_readRecords (source : Path) (parser : LineParser) (all : List (List Char)) :
    Keeps (sight p fun _ => ()) (readRecords stages source parser all) :=
  (sight_readLines hp parser 1 [] all).bind fun _ =>
    (sight_log hp _).bind fun _ => .modify fun _ => rfl

theorem sight_selectRecords (selection : FilterSettings) :
    Keeps (sight p fun _ => ()) (selectRecords stages selection) :=
  .bind (.modifyGet fun _ => rfl) fun _ => (sight_perform hp _ _ _).bind fun _ =>
    .modify fun _ => rfl

theorem sight_untilFirstLook (request : Request) :
    Keeps (sight p q) (untilFirstLook stages request) :=
  (sight_enter hp _).bind fun _ => (sight_validate hp request).bind fun _ =>
    (keeps_checkPath _).bind fun _ => .pure _

theorem sight_untilSecondLook (request : Request) :
    Keeps (sight p q) (untilSecondLook stages request) :=
  (sight_untilFirstLook hp request).bind fun _ => keeps_checkFlag.bind fun _ =>
    (sight_readText hp _).bind fun _ => .pure _

theorem sight_untilWork (request : Request) :
    Keeps (sight p fun _ => ()) (untilWork stages request) :=
  (sight_untilSecondLook hp request).bind fun _ => keeps_checkFlag.bind fun _ =>
    (sight_readRecords hp _ _ _).bind fun _ => (sight_enter hp _).bind fun _ =>
    (sight_selectRecords hp _).bind fun _ => (sight_enter hp _).bind fun _ =>
    (keeps_startWorkers _ _).bind fun _ => .pure _

theorem sight_untilFound (settings : Settings) :
    Keeps (sight p q) (untilFound stages settings) :=
  (sight_enter hp _).bind fun _ => (sight_makeReport hp).bind fun _ =>
    (sight_enter hp _).bind fun _ => (sight_renderExport hp _).bind fun _ =>
    Keeps.get.bind fun _ => .pure _

/-- Until it begins to save, a run writes nothing, and its files are as they were but for the log.
-/
theorem sight_untilSaving (request : Request) :
    Keeps (sight p fun _ => ()) (untilSaving stages request) :=
  (sight_untilWork hp request).bind fun _ => (sight_runUnits hp _).bind fun _ =>
    (keeps_settle _).bind fun _ => sight_untilFound hp _

end Sight

/-! ## What is known along the course -/

/-- Behind the act, if it comes to its end, this is known of its value and of the run. -/
def Brings (act : Act σ α) (r : Run σ) (P : α → Run σ → Prop) : Prop :=
  ∀ a r', outcome act r = (.ok a, r') → P a r'

namespace Brings

variable {act x : Act σ α} {f : α → Act σ β} {r : Run σ} {P P' : α → Run σ → Prop}
  {Q : β → Run σ → Prop}

theorem pure {a : α} (h : P a r) : Brings (pure a) r P := by
  intro a' r' h'
  cases h'
  exact h

theorem trivial : Brings x r fun _ _ => True := fun _ _ _ => True.intro

theorem bind (hx : Brings x r P) (hf : ∀ a r', P a r' → Brings (f a) r' Q) :
    Brings (x >>= f) r Q := by
  intro b r' h
  rw [outcome_bind] at h
  rcases hxr : outcome x r with ⟨_ | a, r₁⟩ <;> rw [hxr] at h
  · cases h
  · exact hf a r₁ (hx a r₁ hxr) b r' h

theorem get {P : Run σ → Run σ → Prop} (h : P r r) : Brings (get : Act σ (Run σ)) r P := by
  intro a' r' h'
  cases h'
  exact h

theorem modify {g : Run σ → Run σ} {P : Unit → Run σ → Prop} (h : P () (g r)) :
    Brings (modify g : Act σ Unit) r P := by
  intro a' r' h'
  cases h'
  exact h

theorem modifyGet {g : Run σ → α × Run σ} (h : P (g r).1 (g r).2) :
    Brings (modifyGet g : Act σ α) r P := by
  intro a' r' h'
  cases h'
  exact h

theorem fail (stage : Stage) (cause : Cause) : Brings (fail stage cause) r P := nofun

theorem unwound (message : String) : Brings (throw (.unwound message)) r P := nofun

/-- Besides, what the act keeps is as it was. -/
theorem keeping {view : Run σ → γ} (hx : Brings x r P) (hkeeps : Keeps view x) :
    Brings x r fun a r' => P a r' ∧ view r' = view r := by
  intro a r' h
  have hview := hkeeps r
  rw [h] at hview
  exact ⟨hx a r' h, hview⟩

theorem perform {ε : Type} {stages : Stages σ} {stage : Stage} {cause : ε → Cause}
    {call : Call ε α} :
    Brings (perform stages stage cause call) r fun a _ => call.result = .returned a := by
  intro a r' h
  rw [outcome_perform] at h
  cases hcall : call.result <;> rw [hcall] at h <;> cases h
  rfl

end Brings

theorem Keeps.brings {view : Run σ → γ} {x : Act σ α} (h : Keeps view x) (r : Run σ) :
    Brings x r fun _ r' => view r' = view r := by
  intro a r' hx
  have hview := h r
  rw [hx] at hview
  exact hview

theorem brings_validate (stages : Stages σ) (request : Request) (r : Run σ) :
    Brings (validate stages request) r fun settings _ =>
      request.choices.validate = .ok settings := by
  rw [validate]
  split
  · exact .fail _ _
  · rename_i settings hvalid
    exact .bind .trivial fun _ _ _ => .pure hvalid

theorem brings_untilFirstLook (stages : Stages σ) (request : Request) (r : Run σ) :
    Brings (untilFirstLook stages request) r fun settings _ =>
      request.choices.validate = .ok settings := by
  refine .bind .trivial fun _ r₁ _ => ?_
  refine (brings_validate stages request r₁).bind fun settings r₂ hvalid => ?_
  exact .bind .trivial fun _ _ _ => .pure hvalid

theorem brings_readLines (stages : Stages σ) (parser : LineParser) (number : Nat)
    (pending : List Event) (all : List (List Char)) (r : Run σ) :
    Brings (readLines stages parser number pending all) r fun records _ =>
      records = parser.recordsOfLines r.ids all := by
  induction all generalizing number pending r with
  | nil => exact .bind .trivial fun _ _ _ => .pure rfl
  | cons line all ih =>
    rw [readLines]
    refine .bind (.modifyGet (P := fun call r' => (call, r'.ids) = parser.parse line r.ids) rfl)
      fun call r₁ h₁ => ?_
    rw [LineParser.recordsOfLines, ← h₁]
    dsimp only
    rcases call.result with (_ | record) | e | message
    · exact ih _ _ r₁
    · refine (ih _ _ r₁).bind fun records r₂ h₂ => .pure ?_
      rw [h₂]
    · contradiction
    · exact .bind .trivial fun _ _ _ => .unwound _

theorem brings_readRecords (stages : Stages σ) (source : Path) (parser : LineParser)
    (text : List Char) (r : Run σ) :
    Brings (readRecords stages source parser (Text.lines text)) r fun _ r' =>
      r'.records = parser.records r.ids text := by
  refine (brings_readLines stages parser 1 [] _ r).bind fun records r₁ h₁ => ?_
  exact .bind .trivial fun _ r₂ _ => .modify h₁

theorem brings_selectRecords (stages : Stages σ) (selection : FilterSettings) (r : Run σ) :
    Brings (selectRecords stages selection) r fun _ r' =>
      (stages.select selection r.records).result = .returned r'.records := by
  refine .bind (.modifyGet (P := fun parsed _ => parsed = r.records) rfl) fun parsed r₁ h₁ => ?_
  subst h₁
  exact .bind .perform fun kept r₂ hkept => .modify hkept

theorem brings_makeReport (stages : Stages σ) (r : Run σ) :
    Brings (makeReport stages) r fun report _ =>
      (stages.aggregate r.records).result = .returned report.summary ∧
        stages.clock.result = .returned report.generatedAt ∧
        (stages.render report.summary report.generatedAt).result = .returned report.body := by
  refine .bind (.get (P := fun r' _ => r' = r) rfl) fun r' r₁ h₁ => ?_
  subst h₁
  refine .bind .perform fun summary r₂ hsummary => ?_
  refine .bind .perform fun now r₃ hnow => ?_
  exact .bind .perform fun body r₄ hbody => .pure ⟨hsummary, hnow, hbody⟩

theorem brings_renderExport (stages : Stages σ) (exportTo : Option Path) (r : Run σ) :
    Brings (renderExport stages exportTo) r fun exported _ =>
      Exports r.records exportTo exported := by
  cases exportTo with
  | none => exact .pure rfl
  | some path =>
    refine .bind (.get (P := fun r' _ => r' = r) rfl) fun r' r₁ h₁ => ?_
    subst h₁
    dsimp only
    cases hbytes : exportFor path r'.records with
    | error e => exact .fail _ _
    | ok bytes =>
      exact .bind .trivial fun _ _ _ => .pure ⟨bytes, hbytes, rfl⟩

/-- What a run found is made from the records that it holds when the work is done. -/
theorem brings_untilFound (stages : Stages σ) (settings : Settings) (r : Run σ) :
    Brings (untilFound stages settings) r fun f _ =>
      f.settings = settings ∧ f.kept = r.records ∧
        (stages.aggregate f.kept).result = .returned f.report.summary ∧
        stages.clock.result = .returned f.report.generatedAt ∧
        (stages.render f.report.summary f.report.generatedAt).result = .returned f.report.body ∧
        Exports f.kept f.settings.exportTo f.exported := by
  -- The files do not matter here, so nothing of them is shown.
  have hmake : Keeps (sight (fun _ => ()) Prod.snd) (makeReport stages) :=
    sight_makeReport fun _ _ => rfl
  have hrender : Keeps (sight (fun _ => ()) Prod.snd) (renderExport stages settings.exportTo) :=
    sight_renderExport (fun _ _ => rfl) _
  have hview : ∀ {r r' : Run σ}, sight (fun _ : σ => ()) Prod.snd r' =
      sight (fun _ => ()) Prod.snd r → r'.records = r.records := fun h => congrArg (·.2.2) h
  refine .bind (.modify (P := fun _ r' => r'.records = r.records) rfl) fun _ r₁ h₁ => ?_
  refine ((brings_makeReport stages r₁).keeping hmake).bind
    fun report r₂ ⟨⟨hsummary, hnow, hbody⟩, h₂⟩ => ?_
  refine .bind (.modify (P := fun _ r' => r'.records = r₂.records) rfl) fun _ r₃ h₃ => ?_
  refine ((brings_renderExport stages settings.exportTo r₃).keeping hrender).bind
    fun exported r₄ ⟨hexported, h₄⟩ => ?_
  refine .bind (.get (P := fun r' _ => r' = r₄) rfl) fun r' r₅ h₅ => .pure ?_
  have hrecords₃ : r₃.records = r.records := (h₃.trans (hview h₂)).trans h₁
  have hrecords₄ : r'.records = r.records := by rw [h₅, hview h₄, hrecords₃]
  rw [h₁] at hsummary
  rw [hrecords₃] at hexported
  exact ⟨rfl, hrecords₄, hrecords₄ ▸ hsummary, hnow, hbody, hrecords₄ ▸ hexported⟩

section Found

variable {stages : Stages σ} {p : σ → γ} (hp : ∀ s events, p (stages.log s events) = p s)
include hp

/-- The text of the log was read from files that look as before. -/
theorem brings_untilSecondLook (request : Request) (r : Run σ) :
    Brings (untilSecondLook stages request) r fun found r' =>
      request.choices.validate = .ok found.1 ∧
        (∃ store, p store = p r.store ∧
          (stages.read store request.source).result = .returned found.2) ∧ r'.ids = r.ids := by
  have hview : ∀ {r r' : Run σ}, sight p Prod.fst r' = sight p Prod.fst r →
      p r'.store = p r.store ∧ r'.ids = r.ids :=
    fun h => ⟨congrArg (·.1) h, congrArg (·.2.2) h⟩
  refine ((brings_untilFirstLook stages request r).keeping
    (sight_untilFirstLook (q := Prod.fst) hp request)).bind fun settings r₁ ⟨hvalid, h₁⟩ => ?_
  obtain ⟨hstore₁, hids₁⟩ := hview h₁
  refine .bind ((keeps_checkFlag (v := sight p Prod.fst)).brings r₁) fun _ r₂ h₂ => ?_
  obtain ⟨hstore₂, hids₂⟩ := hview h₂
  have hread : Brings (readText stages request.source) r₂ fun text _ =>
      (stages.read r₂.store request.source).result = .returned text :=
    .bind (.modifyGet (P := fun call _ => call = stages.read r₂.store request.source) rfl)
      fun call r₃ hcall => by rw [← hcall]; exact .perform
  refine (hread.keeping (sight_readText (q := Prod.fst) hp _)).bind fun text r₃ ⟨htext, h₃⟩ => ?_
  obtain ⟨-, hids₃⟩ := hview h₃
  exact .pure ⟨hvalid, ⟨r₂.store, hstore₂.trans hstore₁, htext⟩,
    hids₃.trans (hids₂.trans hids₁)⟩

/-- The records that are held when the work begins were selected from those of the text. -/
theorem brings_untilWork (request : Request) (r : Run σ) :
    Brings (untilWork stages request) r fun settings r' =>
      request.choices.validate = .ok settings ∧
        ∃ store text, p store = p r.store ∧
          (stages.read store request.source).result = .returned text ∧
          (stages.select settings.selection
            ((stages.parserFor settings).records r.ids text)).result = .returned r'.records := by
  refine (brings_untilSecondLook hp request r).bind fun found r₁ ⟨hvalid, hread, hids₁⟩ => ?_
  obtain ⟨settings, text⟩ := found
  obtain ⟨store, hstore, htext⟩ := hread
  refine .bind ((keeps_checkFlag (v := fun r => r.ids)).brings r₁) fun _ r₂ h₂ => ?_
  refine (brings_readRecords stages _ _ text r₂).bind fun _ r₃ h₃ => ?_
  rw [h₂, hids₁] at h₃
  refine .bind (.modify (P := fun _ r' => r'.records = r₃.records) rfl) fun _ r₄ h₄ => ?_
  refine (brings_selectRecords stages _ r₄).bind fun _ r₅ h₅ => ?_
  rw [h₄, h₃] at h₅
  refine .bind (.modify (P := fun _ r' => r'.records = r₅.records) rfl) fun _ r₆ h₆ => ?_
  refine .bind ((keeps_startWorkers (v := fun r => r.records) stages _).brings r₆)
    fun _ r₇ h₇ => ?_
  refine .pure ⟨hvalid, store, text, hstore, htext, ?_⟩
  rw [h₇, h₆]
  exact h₅

/-- **What a run found fits the request**, with a text from files that look as before. -/
theorem brings_untilSaving (request : Request) (r : Run σ) :
    Brings (untilSaving stages request) r fun f _ =>
      ∃ store, p store = p r.store ∧ f.Fit stages request store r.ids := by
  refine (brings_untilWork hp request r).bind
    fun settings r₁ ⟨hvalid, store, text, hstore, htext, hkept⟩ => ?_
  refine .bind (.modifyGet (P := fun _ r' => r'.records = r₁.records) rfl)
    fun result r₂ h₂ => ?_
  refine .bind ((keeps_settle (v := fun r => r.records) result).brings r₂) fun _ r₃ h₃ => ?_
  intro f r' hf
  obtain ⟨rfl, hrecords, hsummary, hnow, hbody, hexported⟩ :=
    brings_untilFound stages settings r₃ f r' hf
  rw [h₃, h₂] at hrecords
  rw [← hrecords] at hkept
  exact ⟨store, hstore, hvalid, ⟨text, htext, hkept⟩, hsummary, hnow, hbody, hexported⟩

end Found

end Run

end LogDigest
