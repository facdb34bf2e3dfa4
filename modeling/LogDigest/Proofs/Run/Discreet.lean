import LogDigest.Proofs.Causes
import LogDigest.Proofs.Line.Levels
import LogDigest.Proofs.Run.Rendering
import LogDigest.Proofs.Run.Returns
import LogDigest.Proofs.Thresholds

/-!
# The stages of a run are discreet

**The invariant** (`Run.IsDiscreet`). Everything that was told so far is discreet. Each part of a
run keeps this whatever way it ends, because what it logs is discreet: the settings are those of the
request, a discarded line is shown as a preview, a level is shown with a record only if it is one of
two short words, and everything else is a name or a number.

**Causes** (`Cause.Accounted`). If a part fails, the texts of the cause come from the request. The
exception is a level that is not known. It is that of a record, and the records were read from the
source while nothing of the storage had changed but the log (`Run.OnlyLogged`), so it stands on a
line of that text.

Both are said of an act at once (`Run.ActsDiscreetly`), so one walk along the parts of a run shows
both.
-/

namespace LogDigest

open Text

/-! ## Standard parts -/

/-- The parts do and tell what the standard ones do, wherever files are and the log goes, and
however the work is shared. Reading and the clock tell nothing, and a write at most where and how
much. -/
structure Stages.Standard {σ : Type} (stages : Stages σ) : Prop where
  read : ∀ store path, (stages.read store path).events = []
  write : ∀ store path bytes, ∀ e ∈ (stages.write store path bytes).2.events,
    e = .fileWritten path.text bytes.length
  clock : stages.clock.events = []
  parser : stages.parser = none
  select : ∀ s records, stages.select s records =
    { Call.ofExcept (s.apply records) with events := s.events records }
  processor : stages.processor = classify
  aggregate : ∀ records, (stages.aggregate records).events = [(Summary.ofRecords records).event]
  render : ∀ summary now, (stages.render summary now).events = []

namespace Stages

theorem standard_inMemory (now : Timestamp) : (inMemory now).Standard where
  read store path := by
    rw [inMemory]
    dsimp only
    cases store.read path <;> rfl
  write store path bytes e he := by
    simp only [inMemory] at he
    split at he <;> cases he
  clock := rfl
  parser := rfl
  select _ _ := rfl
  processor := rfl
  aggregate _ := rfl
  render _ _ := rfl

end Stages

/-! ## Units of work -/

namespace Pool

variable {units : List UnitCall} {p : Pool} {e : Event}

/-- In a step the unit that runs may tell something. -/
theorem mem_events_step {s : PoolStep} (h : e ∈ (p.step units s).events) :
    e ∈ p.events ∨ ∃ c ∈ units, e ∈ c.events := by
  have hdoes : Does units p s _ _ := step_does p s
  generalize p.step units s = p' at h hdoes
  generalize p.event? units s = happened at hdoes
  cases hdoes with
  | idle | raise | skip | start => exact .inl h
  | run started call =>
    rcases List.mem_append.1 h with h | h
    · exact .inl h
    · exact .inr ⟨_, List.mem_of_getElem? call, h⟩

theorem mem_events_steps {steps : Schedule} (h : e ∈ (steps.foldl (step units) p).events) :
    e ∈ p.events ∨ ∃ c ∈ units, e ∈ c.events := by
  induction steps generalizing p with
  | nil => exact .inl h
  | cons s steps ih =>
    rcases ih h with h | h
    · exact mem_events_step h
    · exact .inr h

/-- What a pool tells is what some unit tells. -/
theorem exists_of_mem_events_run {schedule : Schedule} {flag : Bool}
    (h : e ∈ (run units schedule flag).events) : ∃ c ∈ units, e ∈ c.events :=
  (mem_events_steps h).resolve_left nofun

end Pool

theorem exists_of_mem_unitEvents {processor : Processor} {schedule : Schedule} {flag : Bool}
    {records : List Record} {e : Event}
    (h : e ∈ (processAll processor schedule flag records).unitEvents) :
    ∃ r ∈ records, e ∈ (processor r).events := by
  obtain ⟨c, hc, he⟩ := Pool.exists_of_mem_events_run h
  rw [List.map_map] at hc
  obtain ⟨r, hr, rfl⟩ := List.mem_map.1 hc
  exact ⟨r, hr, he⟩

/-- Behind the work on records stands one of three events. -/
theorem closing_cases (schedule : Schedule) (flag : Bool) (units : List WorkUnit) :
    (∃ completed total, (processUnits schedule flag units).closing =
      .processingCancelled completed total) ∨
    (∃ completed, (processUnits schedule flag units).closing = .processingComplete completed) ∨
    ∃ failed total, (processUnits schedule flag units).closing = .unitsFailed failed total := by
  rw [processUnits]
  dsimp only
  split_ifs
  · exact .inl ⟨_, _, rfl⟩
  · exact .inr (.inl ⟨_, rfl⟩)
  · exact .inr (.inr ⟨_, _, rfl⟩)

theorem discreet_closing {request : Request} (schedule : Schedule) (flag : Bool)
    (units : List WorkUnit) : (processUnits schedule flag units).closing.Discreet request := by
  rcases closing_cases schedule flag units with ⟨_, _, h⟩ | ⟨_, h⟩ | ⟨_, _, h⟩ <;> rw [h]
  all_goals exact Event.discreet_of_textless nofun rfl

theorem IdCounter.mem_of_mem_mintAll {ids : IdCounter} {es : List Entry} {record : Record}
    (h : record ∈ (ids.mintAll es).1) : record.toEntry ∈ es := by
  induction es generalizing ids with
  | nil => cases h
  | cons e es ih =>
    rcases List.mem_cons.1 h with rfl | h
    · exact List.mem_cons_self
    · exact List.mem_cons_of_mem e (ih h)

namespace Run

variable {σ α β : Type}

/-! ## What was read -/

/-- So far the run changed nothing of the storage but its log. -/
def OnlyLogged (stages : Stages σ) (store : σ) (r : Run σ) : Prop :=
  ∃ told : List (List Event), r.store = told.foldl stages.log store

/-- The level stands on a line of the text that is read from the source, in the storage with nothing
changed but the log. -/
def LevelIsRead (stages : Stages σ) (store : σ) (source : Path) (level : String) : Prop :=
  ∃ (told : List (List Event)) (text : List Char),
    (stages.read (told.foldl stages.log store) source).result = .returned text ∧
      ∃ line ∈ lines text, level.toList <:+: line

section Levels

variable {stages : Stages σ} {store : σ} {source : Path} {r : Run σ}

theorem OnlyLogged.note (h : OnlyLogged stages store r) (events : List Event) :
    OnlyLogged stages store (note stages r events) := by
  obtain ⟨told, hr⟩ := h
  refine ⟨told ++ [events], ?_⟩
  rw [List.foldl_append, ← hr]
  rfl

theorem OnlyLogged.of_keeps {act : Act σ α} (h : OnlyLogged stages store r)
    (hkeeps : Keeps (fun r => r.store) act) :
    Brings act r fun _ r' => OnlyLogged stages store r' := by
  intro a r' hact
  obtain ⟨told, hr⟩ := h
  exact ⟨told, (hkeeps.brings r a r' hact).trans hr⟩

theorem OnlyLogged.enter (h : OnlyLogged stages store r) (stage : Stage) :
    Brings (enter stages stage) r fun _ r' => OnlyLogged stages store r' :=
  .modify (h.note [.transition r.state.name stage.name])

theorem OnlyLogged.validate (h : OnlyLogged stages store r) (request : Request) :
    Brings (validate stages request) r fun _ r' => OnlyLogged stages store r' := by
  rw [Run.validate]
  split
  · exact .fail _ _
  · exact .bind (.modify (P := fun _ r' => OnlyLogged stages store r') (h.note _))
      fun _ r' h' => .pure h'

theorem brings_readText (h : OnlyLogged stages store r) :
    Brings (readText stages source) r fun text _ =>
      ∃ told : List (List Event),
        (stages.read (told.foldl stages.log store) source).result = .returned text := by
  obtain ⟨told, hr⟩ := h
  refine .bind (.modifyGet (P := fun call _ => call = stages.read r.store source) rfl)
    fun call r₁ hcall => ?_
  subst hcall
  intro text r₂ htext
  exact ⟨told, hr ▸ Brings.perform text r₂ htext⟩

/-- The levels of the records that are held after reading were read. -/
theorem brings_readSource (hparser : stages.parser = none) (h : OnlyLogged stages store r)
    (shape : LineShape) : Brings (readSource stages source shape) r fun _ r' =>
      ∀ record ∈ r'.records, LevelIsRead stages store source record.level := by
  refine (h.of_keeps (keeps_checkPath source)).bind fun _ r₁ h₁ => ?_
  refine (h₁.of_keeps keeps_checkFlag).bind fun _ r₂ h₂ => ?_
  refine (brings_readText h₂).bind fun text r₃ ⟨told, htext⟩ => ?_
  refine .bind .trivial fun _ r₄ _ => ?_
  rw [hparser]
  intro a r' hrecords record hrecord
  rw [brings_readRecords stages source shape.parser text r₄ a r' hrecords,
    shape.records_eq] at hrecord
  obtain ⟨line, hline, hread⟩ := List.mem_filterMap.1 (IdCounter.mem_of_mem_mintAll hrecord)
  exact ⟨told, text, htext, line, hline, LineShape.level_isInfix hread⟩

theorem brings_readStage_levels (hparser : stages.parser = none) {request : Request}
    (h : OnlyLogged stages store r) : Brings (readStage stages request) r fun _ r' =>
      ∀ record ∈ r'.records, LevelIsRead stages store request.source record.level := by
  refine (h.validate request).bind fun settings r₁ h₁ => ?_
  exact (brings_readSource hparser h₁ settings.shape).bind fun _ r₂ h₂ => .pure h₂

end Levels

end Run

/-- The texts of the cause are accounted for by the request, and a level that is not known was
read. -/
def Cause.Accounted {σ : Type} (stages : Stages σ) (store : σ) (request : Request) : Cause → Prop
  | .filter (.unknownLevel level _) => Run.LevelIsRead stages store request.source level
  | cause => ∀ s ∈ cause.texts, request.Accounts s

namespace Run

variable {σ α β : Type}

/-! ## The invariant -/

/-- All that a run told so far. -/
def told (r : Run σ) : List Event := r.journal.events ++ r.journal.unitEvents

theorem mem_told_note {stages : Stages σ} {r : Run σ} {events : List Event} {e : Event} :
    e ∈ (note stages r events).told ↔ e ∈ r.told ∨ e ∈ events := by
  simp only [told, note, List.mem_append]
  tauto

theorem mem_told_noteUnits {stages : Stages σ} {r : Run σ} {events : List Event} {e : Event} :
    e ∈ (noteUnits stages r events).told ↔ e ∈ r.told ∨ e ∈ events := by
  simp only [told, noteUnits, List.mem_append]
  tauto

/-- All that a run told so far is discreet. -/
def IsDiscreet (request : Request) (r : Run σ) : Prop := ∀ e ∈ r.told, e.Discreet request

theorem IsDiscreet.note {request : Request} {r : Run σ} (h : r.IsDiscreet request)
    (stages : Stages σ) {events : List Event} (hevents : ∀ e ∈ events, e.Discreet request) :
    (note stages r events).IsDiscreet request :=
  fun e he => (mem_told_note.1 he).elim (h e) (hevents e)

theorem IsDiscreet.noteUnits {request : Request} {r : Run σ} (h : r.IsDiscreet request)
    (stages : Stages σ) {events : List Event} (hevents : ∀ e ∈ events, e.Discreet request) :
    (noteUnits stages r events).IsDiscreet request :=
  fun e he => (mem_told_noteUnits.1 he).elim (h e) (hevents e)

/-- The act keeps the invariant, whatever way it ends, and the cause of a failure is accounted
for. -/
def ActsDiscreetly (stages : Stages σ) (store : σ) (request : Request) (act : Act σ α)
    (r : Run σ) : Prop :=
  r.IsDiscreet request → (outcome act r).2.IsDiscreet request ∧
    ∀ err, (outcome act r).1 = .error (.failed err) → err.cause.Accounted stages store request

namespace ActsDiscreetly

variable {stages : Stages σ} {store : σ} {request : Request} {r : Run σ}

theorem of_ok {act : Act σ α} {a : α} {r' : Run σ} (h : outcome act r = (.ok a, r'))
    (hr' : r.IsDiscreet request → r'.IsDiscreet request) :
    ActsDiscreetly stages store request act r := by
  intro hr
  rw [h]
  refine ⟨hr' hr, fun err herr => ?_⟩
  cases herr

/-- An act that comes to its end and tells nothing. -/
theorem of_quiet {act : Act σ α} {a : α} {r' : Run σ} (h : outcome act r = (.ok a, r'))
    (htold : r'.told = r.told) : ActsDiscreetly stages store request act r :=
  of_ok h fun hr e he => hr e (htold ▸ he)

theorem pure (a : α) : ActsDiscreetly stages store request (pure a) r :=
  of_quiet (outcome_pure a r) rfl

theorem get : ActsDiscreetly stages store request (get : Act σ (Run σ)) r :=
  of_quiet (outcome_get r) rfl

theorem bind {x : Act σ α} {f : α → Act σ β} (hx : ActsDiscreetly stages store request x r)
    (hf : ∀ a r', outcome x r = (.ok a, r') → ActsDiscreetly stages store request (f a) r') :
    ActsDiscreetly stages store request (x >>= f) r := by
  intro hr
  have hdiscreet := hx hr
  rw [outcome_bind]
  rcases hxr : outcome x r with ⟨stop | a, r'⟩ <;> rw [hxr] at hdiscreet
  · refine ⟨hdiscreet.1, fun err herr => hdiscreet.2 err ?_⟩
    cases herr
    rfl
  · exact hf a r' hxr hdiscreet.1

theorem log {events : List Event} (h : ∀ e ∈ events, e.Discreet request) :
    ActsDiscreetly stages store request (log stages events) r :=
  of_ok (outcome_log stages events r) fun hr => hr.note stages h

theorem fail {stage : Stage} {cause : Cause} (h : cause.Accounted stages store request) :
    ActsDiscreetly stages store request (fail stage cause : Act σ α) r := by
  refine fun hr => ⟨hr, fun err herr => ?_⟩
  cases herr
  exact h

theorem perform {ε : Type} {stage : Stage} {cause : ε → Cause} {call : Call ε α}
    (hevents : ∀ e ∈ call.events, e.Discreet request)
    (hcause : ∀ e, call.result = .failed e → (cause e).Accounted stages store request) :
    ActsDiscreetly stages store request (perform stages stage cause call) r := by
  intro hr
  rw [outcome_perform]
  refine ⟨hr.note stages hevents, fun err herr => ?_⟩
  cases hresult : call.result with
  | failed e =>
    rw [hresult] at herr
    cases herr
    exact hcause e hresult
  | returned | unwound =>
    rw [hresult] at herr
    cases herr

theorem performSafe {stage : Stage} {call : Call Empty α}
    (hevents : ∀ e ∈ call.events, e.Discreet request) :
    ActsDiscreetly stages store request (performSafe stages stage call) r :=
  perform hevents fun e => nomatch e

theorem enter (stage : Stage) : ActsDiscreetly stages store request (enter stages stage) r :=
  of_ok (outcome_modify _ r) fun hr => hr.note stages
    (List.forall_mem_singleton.2 (Event.discreet_transition r.state (.active stage)))

end ActsDiscreetly

/-! ## Reading -/

section Parts

variable {stages : Stages σ} {store : σ} {request : Request} {r : Run σ}

theorem actsDiscreetly_validate :
    ActsDiscreetly stages store request (validate stages request) r := by
  rw [validate]
  split
  · rename_i e hinvalid
    exact .fail (Request.accounts_config hinvalid)
  · rename_i settings hvalid
    exact .bind (.log (List.forall_mem_singleton.2 (Event.discreet_settings hvalid)))
      fun _ _ _ => .pure settings

theorem actsDiscreetly_checkPath (source : Path) :
    ActsDiscreetly stages store request (checkPath source) r := by
  rw [checkPath]
  split
  · exact .fail (List.forall_mem_nil _)
  · exact .pure ()

theorem actsDiscreetly_checkFlag : ActsDiscreetly stages store request checkFlag r := by
  refine .bind .get fun r' r₁ _ => ?_
  split
  · exact .fail (List.forall_mem_nil _)
  · exact .pure ()

/-- The lines that a shape does not fit are shown as previews. -/
theorem actsDiscreetly_readLines (shape : LineShape) (number : Nat) (pending : List Event)
    (hpending : ∀ e ∈ pending, e.Discreet request) (all : List (List Char)) :
    ActsDiscreetly stages store request (readLines stages shape.parser number pending all) r := by
  have hlog : ∀ {pending : List Event} {r : Run σ}, (∀ e ∈ pending, e.Discreet request) →
      ActsDiscreetly stages store request (log stages pending.reverse) r := fun h =>
    .log fun e he => h e (List.mem_reverse.1 he)
  induction all generalizing number pending r with
  | nil => exact .bind (hlog hpending) fun _ _ _ => .pure []
  | cons line all ih =>
    rw [readLines]
    refine .bind (.of_quiet (outcome_modifyGet _ r) rfl) fun call r₁ hcall => ?_
    -- A shape tells nothing about the lines that it fits.
    have hparsed : ∃ record, call = .pure record :=
      ⟨_, (Except.ok.inj (congrArg Prod.fst hcall)).symm⟩
    obtain ⟨record, rfl⟩ := hparsed
    have hquiet : (Call.pure record : Call Empty _).events.reverse ++ pending = pending := rfl
    rw [hquiet]
    cases record with
    | some record => exact .bind (ih _ _ hpending) fun records _ _ => .pure (record :: records)
    | none =>
      refine ih _ _ fun e he => ?_
      rcases List.mem_append.1 he with he | he
      · exact Event.discreet_of_mem_event? (Option.mem_toList.1 he)
      · exact hpending e he

theorem actsDiscreetly_readRecords (shape : LineShape) (all : List (List Char)) :
    ActsDiscreetly stages store request
      (readRecords stages request.source shape.parser all) r := by
  refine .bind (actsDiscreetly_readLines shape 1 [] nofun all) fun _ r₁ _ => ?_
  refine .bind (.log ?_) fun _ r₂ _ => .of_quiet (outcome_modify _ r₂) rfl
  exact List.forall_mem_cons.2 ⟨Event.discreet_textParsed shape _ _ _,
    List.forall_mem_singleton.2 (Event.discreet_logRead shape _ _)⟩

variable (hstages : stages.Standard)
include hstages

theorem actsDiscreetly_readText :
    ActsDiscreetly stages store request (readText stages request.source) r := by
  refine .bind (.of_quiet (outcome_modifyGet _ r) rfl) fun call r₁ hcall => ?_
  cases hcall
  refine .perform ?_ fun e _ => ?_
  · rw [hstages.read]
    nofun
  · exact List.forall_mem_singleton.2 Request.covers_source.accounts

theorem actsDiscreetly_readStage :
    ActsDiscreetly stages store request (readStage stages request) r := by
  refine .bind actsDiscreetly_validate fun settings r₁ _ => ?_
  refine .bind (.bind (actsDiscreetly_checkPath _) fun _ r₂ _ => ?_) fun _ _ _ => .pure settings
  refine .bind actsDiscreetly_checkFlag fun _ r₃ _ => ?_
  refine .bind (actsDiscreetly_readText hstages) fun text r₄ _ => ?_
  refine .bind actsDiscreetly_checkFlag fun _ r₅ _ => ?_
  rw [hstages.parser]
  exact actsDiscreetly_readRecords settings.shape _

/-! ## The other stages -/

/-- Filtering fails because of the filter text, or because of a level that was read. -/
theorem actsDiscreetly_selectRecords {settings : Settings}
    (hvalid : request.choices.validate = .ok settings)
    (hlevels : ∀ record ∈ r.records, LevelIsRead stages store request.source record.level) :
    ActsDiscreetly stages store request (selectRecords stages settings.selection) r := by
  refine .bind (.of_quiet (outcome_modifyGet _ r) rfl) fun parsed r₁ hparsed => ?_
  cases hparsed
  refine .bind (.perform ?_ fun e herror => ?_) fun _ r₂ _ => .of_quiet (outcome_modify _ r₂) rfl
  · rw [hstages.select]
    exact fun e he => Event.discreet_of_mem_selection (Request.covers_criteria hvalid) he
  · have happly : settings.selection.apply r.records = .error e := by
      rw [hstages.select] at herror
      cases happly : settings.selection.apply r.records <;> rw [happly] at herror <;> cases herror
      rfl
    have hcomes := settings.selection.comesTo_apply r.records
    rw [happly] at hcomes
    cases hcomes with
    | uncompiled htext =>
      obtain ⟨hlevel, htexts⟩ := Request.accounts_filter hvalid htext
      cases e with
      | unknownLevel level id => exact absurd rfl (hlevel level id)
      | _ => exact htexts
    | @refused f before after record _ _ hrecords => exact hlevels record (by simp [hrecords])

theorem actsDiscreetly_runUnits (workers : Nat) :
    ActsDiscreetly stages store request (runUnits stages workers) r := by
  refine .of_ok (outcome_modifyGet _ r) fun hr => ?_
  refine IsDiscreet.note (IsDiscreet.noteUnits (hr.note stages ?_) stages ?_) stages ?_
  · exact List.forall_mem_singleton.2 (Event.discreet_of_textless nofun rfl)
  · intro e he
    obtain ⟨record, -, he⟩ := exists_of_mem_unitEvents he
    rw [hstages.processor] at he
    exact Event.discreet_of_mem_classify he
  · exact List.forall_mem_singleton.2 (discreet_closing _ _ _)

theorem actsDiscreetly_processRecords (workers : Nat) :
    ActsDiscreetly stages store request (processRecords stages workers) r := by
  have hstart : ActsDiscreetly stages store request (startWorkers stages workers) r := by
    rw [startWorkers]
    split
    · exact .pure ()
    · exact .fail (List.forall_mem_nil _)
  refine .bind hstart fun _ r₁ _ => ?_
  refine .bind (actsDiscreetly_runUnits hstages workers) fun result r₂ hresult => ?_
  cases hresult
  split
  · exact .pure ()
  · rename_i e herror
    rw [hstages.processor] at herror
    have htexts : (Cause.process e).texts = [] := texts_of_classify herror
    refine .fail (fun s hs => ?_)
    rw [htexts] at hs
    cases hs

theorem actsDiscreetly_makeReport :
    ActsDiscreetly stages store request (makeReport stages) r := by
  refine .bind .get fun r' r₁ _ => ?_
  refine .bind (.performSafe ?_) fun summary r₂ _ => ?_
  · rw [hstages.aggregate]
    exact List.forall_mem_singleton.2 (Event.discreet_of_textless nofun rfl)
  refine .bind (.performSafe ?_) fun now r₃ _ => ?_
  · rw [hstages.clock]
    nofun
  refine .bind (.performSafe ?_) fun body r₄ _ => .pure _
  rw [hstages.render]
  nofun

theorem actsDiscreetly_writeFile {cause : IoError → Cause} {path : Path}
    (hpath : request.Covers path.text) (hcause : ∀ e, (cause e).Accounted stages store request)
    (bytes : List UInt8) :
    ActsDiscreetly stages store request (writeFile stages cause path bytes) r := by
  refine .bind (.of_quiet (outcome_modifyGet _ r) rfl) fun call r₁ hcall => ?_
  cases hcall
  refine .perform (fun e he => ?_) fun e _ => hcause e
  rw [hstages.write _ _ _ e he]
  exact Event.discreet_of_text nofun rfl hpath

omit hstages in
theorem actsDiscreetly_renderExport {settings : Settings}
    (hvalid : request.choices.validate = .ok settings) :
    ActsDiscreetly stages store request (renderExport stages settings.exportTo) r := by
  cases hexport : settings.exportTo with
  | none => exact .pure none
  | some path =>
    have hpath := Request.covers_exportTo hvalid hexport
    obtain ⟨format, hformat⟩ := Choices.ofPath_of_validate hvalid hexport
    refine .bind .get fun r' r₁ _ => ?_
    have hbytes : exportFor path r'.records = .ok (exportBytes r'.records format) := by
      rw [exportFor, hformat]
      rfl
    dsimp only
    rw [hbytes]
    exact .bind (.log fun e he => Event.discreet_of_mem_exportEvents hpath he)
      fun _ _ _ => .pure _

theorem actsDiscreetly_saveReport {settings : Settings} {report : Report}
    (hvalid : request.choices.validate = .ok settings) :
    ActsDiscreetly stages store request (saveReport stages settings.output report) r := by
  have houtput := Request.covers_output hvalid
  refine .bind (actsDiscreetly_writeFile hstages houtput (fun e => ?_) _) fun _ r₁ _ => ?_
  · exact List.forall_mem_singleton.2 houtput.accounts
  · exact .log (List.forall_mem_singleton.2 (Event.discreet_of_text nofun rfl houtput))

theorem actsDiscreetly_saveExport {exported : Option (Path × List UInt8)}
    (h : ∀ path bytes, exported = some (path, bytes) → request.Covers path.text) :
    ActsDiscreetly stages store request (saveExport stages exported) r := by
  cases exported with
  | none => exact .pure ()
  | some w =>
    obtain ⟨path, bytes⟩ := w
    have hpath := h path bytes rfl
    refine .bind (actsDiscreetly_writeFile hstages hpath (fun e => ?_) _) fun _ r₁ _ => ?_
    · exact List.forall_mem_singleton.2 hpath.accounts
    · refine .bind .get fun _ r₂ _ => .log ?_
      exact List.forall_mem_singleton.2 (Event.discreet_of_text nofun rfl hpath)

theorem actsDiscreetly_persist {settings : Settings} {report : Report}
    (hvalid : request.choices.validate = .ok settings) :
    ActsDiscreetly stages store request (persist stages settings report) r := by
  refine .bind (actsDiscreetly_renderExport hvalid) fun exported r₁ hexported => ?_
  have hfits := brings_renderExport stages settings.exportTo r exported r₁ hexported
  refine .bind (actsDiscreetly_saveReport hstages hvalid) fun _ r₂ _ => ?_
  refine actsDiscreetly_saveExport hstages fun path bytes hsome => ?_
  cases hexport : settings.exportTo with
  | none =>
    rw [hexport] at hfits
    cases hfits.symm.trans hsome
  | some path' =>
    rw [hexport] at hfits
    obtain ⟨bytes', -, heq⟩ := hfits
    cases heq.symm.trans hsome
    exact Request.covers_exportTo hvalid hexport

theorem actsDiscreetly_laterStages {settings : Settings}
    (hvalid : request.choices.validate = .ok settings)
    (hlevels : ∀ record ∈ r.records, LevelIsRead stages store request.source record.level) :
    ActsDiscreetly stages store request (laterStages stages settings) r := by
  refine .bind (.enter .filtering) fun _ r₁ h₁ => ?_
  cases h₁
  refine .bind (actsDiscreetly_selectRecords hstages hvalid hlevels) fun _ r₂ _ => ?_
  refine .bind (.enter .processing) fun _ r₃ _ => ?_
  refine .bind (actsDiscreetly_processRecords hstages _) fun _ r₄ _ => ?_
  refine .bind (.enter .reporting) fun _ r₅ _ => ?_
  refine .bind (actsDiscreetly_makeReport hstages) fun report r₆ _ => ?_
  refine .bind (.enter .persisting) fun _ r₇ _ => ?_
  exact .bind (actsDiscreetly_persist hstages hvalid) fun _ r₈ _ => .pure report

/-- **The stages are discreet**, and if one of them fails the cause is accounted for. -/
theorem actsDiscreetly_stagesInOrder (h : OnlyLogged stages store r) :
    ActsDiscreetly stages store request (stagesInOrder stages request) r := by
  refine .bind (.enter .reading) fun _ r₁ henter => ?_
  have h₁ := h.enter .reading _ r₁ henter
  refine .bind (actsDiscreetly_readStage hstages) fun settings r₂ hread => ?_
  exact actsDiscreetly_laterStages hstages (brings_readStage stages request r₁ settings r₂ hread)
    (brings_readStage_levels hstages.parser h₁ settings r₂ hread)

end Parts

end Run

end LogDigest
