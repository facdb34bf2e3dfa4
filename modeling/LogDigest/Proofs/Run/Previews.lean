import LogDigest.Proofs.Run.Closing
import LogDigest.Proofs.Run.Discreet

/-!
# What a run tells of the lines of its log

A run with standard parts is discreet in all that it tells but the event about its failure, and the
cause of a failure tells nothing of the text but a level that is not known
(`Analyzer.analyze_tells_previews`).

**The failure.** The cause of a failure is told in full. Under the strict policy it holds the level
that is not known, and a level is as long as its line lets it be. So a run that meets such a level
of more than `previewLimit` characters exposes the line on which it stands.
-/

namespace LogDigest

open Text

namespace Run

variable {σ : Type}

/-! ## The end of a run -/

/-- Concluding a run tells its total, or why it failed. -/
theorem mem_told_conclude {stages : Stages σ} {r : Run σ} {result : Except Stop Report}
    {e : Event} : e ∈ (conclude stages r result).told ↔ e ∈ r.told ∨
      (∃ report, result = .ok report ∧ e = .analysisComplete report.summary.total) ∨
      ∃ err, result = .error (.failed err) ∧
        e = .analysisFailed err.stage.label err.cause.message := by
  rcases result with (err | message) | report
  · have htold : (conclude stages r (.error (.failed err))).told =
        (note stages r [.analysisFailed err.stage.label err.cause.message]).told := rfl
    rw [htold, mem_told_note, List.mem_singleton]
    simp
  · have htold : (conclude stages r (.error (.unwound message))).told = r.told := by
      rw [conclude]
      split <;> rfl
    rw [htold]
    simp
  · have htold : (conclude stages r (.ok report)).told =
        (note stages r [.analysisComplete report.summary.total]).told := rfl
    rw [htold, mem_told_note, List.mem_singleton]
    simp

theorem mem_told_close {stages : Stages σ} {r : Run σ} {e : Event} : e ∈ (close stages r).told ↔
    e ∈ r.told ∨ e = .runFinalized r.state.name (r.finalizations + 1) := by
  have htold : (close stages r).told =
      (note stages r [.runFinalized r.state.name (r.finalizations + 1)]).told := rfl
  rw [htold, mem_told_note, List.mem_singleton]

end Run

/-! ## Whole runs -/

/-- The failure tells the level that is not known. -/
theorem Cause.level_isInfix_message (level : String) (id : RecordId) :
    level.toList <:+: (filter (.unknownLevel level id)).message.toList := by
  have hmessage : (filter (.unknownLevel level id)).message =
      "Filter error: " ++ ("Record " ++ id.text ++ " has unrecognised level '" ++ level ++ "'") :=
    rfl
  refine ⟨("Filter error: " ++ ("Record " ++ id.text ++ " has unrecognised level '")).toList,
    "'".toList, ?_⟩
  rw [hmessage]
  simp only [String.toList_append, List.append_assoc]

/-- All that the run told, its units of work included. -/
def RunOutcome.told {σ : Type} (o : RunOutcome σ) : List Event :=
  o.journal.events ++ o.journal.unitEvents

/-- Of a line the run tells no more than a preview, but for what the event about its failure
tells. -/
structure RunOutcome.TellsPreviews {σ : Type} (stages : Stages σ) (store : σ) (request : Request)
    (o : RunOutcome σ) : Prop where
  discreet : ∀ e ∈ o.told, e.Discreet request ∨
    ∃ err, o.result = .error (.failed err) ∧
      e = .analysisFailed err.stage.label err.cause.message
  /-- Whatever log is looked at, it is exposed exactly if the run fails and the cause exposes it. -/
  exposes_iff : ∀ log, (∃ e ∈ o.told, e.Exposes request log) ↔
    ∃ err, o.result = .error (.failed err) ∧ request.Exposes log err.cause.message
  /-- The texts of the cause come from the request, but for a level that was read. -/
  accounted : ∀ err, o.result = .error (.failed err) → err.cause.Accounted stages store request
  /-- A long level that is not known is exposed, unless it stands in the request too. -/
  unknownLevel : ∀ stage level id,
    o.result = .error (.failed { stage, cause := .filter (.unknownLevel level id) }) →
    previewLimit < level.length → (∀ t, request.Says t → ¬ level.toList <:+: t.toList) →
    ∀ log, (∃ line ∈ lines log, level.toList <:+: line) → ∃ e ∈ o.told, e.Exposes request log

namespace Analyzer

variable {σ : Type} {stages : Stages σ}

theorem mem_told_analyze {a : Analyzer σ} {request : Request} {e : Event} :
    e ∈ (a.analyze stages request).told ↔
      e ∈ (Run.close stages (Run.conclude stages
        (Run.outcome (Run.stagesInOrder stages request) (Run.begin stages a request.source)).2
        (a.analyze stages request).result)).told := Iff.rfl

/-- What is told is discreet, or is the event about the failure, whose cause is accounted for. -/
theorem analyze_discreet (hstages : stages.Standard) (a : Analyzer σ) (request : Request) :
    (∀ e ∈ (a.analyze stages request).told, e.Discreet request ∨
      ∃ err, (a.analyze stages request).result = .error (.failed err) ∧
        e = .analysisFailed err.stage.label err.cause.message) ∧
    ∀ err, (a.analyze stages request).result = .error (.failed err) →
      err.cause.Accounted stages a.store request := by
  have hbegin : (Run.begin stages a request.source).IsDiscreet request :=
    List.forall_mem_singleton.2 (Event.discreet_of_text nofun rfl Request.covers_source)
  have hlogged : Run.OnlyLogged stages a.store (Run.begin stages a request.source) :=
    ⟨[[.analysisStarted request.source.text]], rfl⟩
  have hrun := Run.actsDiscreetly_stagesInOrder hstages hlogged hbegin
  refine ⟨fun e he => ?_, hrun.2⟩
  rcases Run.mem_told_close.1 (mem_told_analyze.1 he) with he | rfl
  · rcases Run.mem_told_conclude.1 he with he | ⟨report, -, rfl⟩ | hfailed
    · exact .inl (hrun.1 e he)
    · exact .inl (Event.discreet_of_textless nofun rfl)
    · exact .inr hfailed
  · exact .inl (Event.discreet_runFinalized _ _)

/-- The event about a failure is told. -/
theorem analysisFailed_mem_told {a : Analyzer σ} {request : Request} {err : AnalysisError}
    (h : (a.analyze stages request).result = .error (.failed err)) :
    .analysisFailed err.stage.label err.cause.message ∈ (a.analyze stages request).told :=
  mem_told_analyze.2 <|
    Run.mem_told_close.2 (.inl (Run.mem_told_conclude.2 (.inr (.inr ⟨err, h, rfl⟩))))

/-- **Of a line a run tells no more than a preview**, as long as it does not fail because of a
level. Whatever the text, the settings and the way in which a run ends are, what it tells is
discreet but for the event about its failure, and the cause of a failure tells nothing of the text
but a level that is not known. That level is told in full. -/
theorem analyze_tells_previews (hstages : stages.Standard) (a : Analyzer σ) (request : Request) :
    (a.analyze stages request).TellsPreviews stages a.store request := by
  obtain ⟨hdiscreet, haccounted⟩ := analyze_discreet hstages a request
  have hexposes : ∀ {log err}, (a.analyze stages request).result = .error (.failed err) →
      request.Exposes log err.cause.message →
      ∃ e ∈ (a.analyze stages request).told, e.Exposes request log := fun hfailed hcause =>
    ⟨_, analysisFailed_mem_told hfailed, Event.exposes_analysisFailed_iff.2 hcause⟩
  refine ⟨hdiscreet, fun log => ⟨?_, ?_⟩, haccounted, ?_⟩
  · rintro ⟨e, he, hexposed⟩
    rcases hdiscreet e he with hquiet | ⟨err, hfailed, rfl⟩
    · exact absurd hexposed (hquiet.not_exposes log)
    · exact ⟨err, hfailed, Event.exposes_analysisFailed_iff.1 hexposed⟩
  · rintro ⟨err, hfailed, hcause⟩
    exact hexposes hfailed hcause
  · intro stage level id hfailed hlong hnowhere log hline
    rw [← String.length_toList] at hlong
    exact hexposes hfailed
      ⟨level.toList, hlong, Cause.level_isInfix_message level id, hline, hnowhere⟩

/-! ## A long level -/

/-- A word that is longer than a preview. -/
def longWord : List Char := List.replicate 201 'L'

/-- A log with one line, the level of which is long. -/
def loudLog : List Char := "2024-01-15 10:30:00 ".toList ++ longWord ++ " up again\n".toList

/-- The log with the long level in memory. -/
@[irreducible] def loudLine : Memory where
  inputs := [(⟨"app.log"⟩, Utf8.encode loudLog)]

/-- A run that knows all levels or fails. -/
def strictly : Request where
  source := ⟨"app.log"⟩
  choices := ((({} : Choices).set .logLevel "Info").set .outputPath "report.txt").set
    .levelPolicy "strict"

theorem longWord_not_said {t : String} (h : strictly.Says t) : ¬ longWord <:+: t.toList := by
  intro hinside
  have hle : longWord.length ≤ t.toList.length := hinside.length_le
  have hshort : t.toList.length ≤ previewLimit := by
    rcases h with rfl | ⟨key, hkey⟩
    · decide
    · cases key <;> cases hkey <;> decide
  exact absurd (hle.trans hshort) (by decide +kernel)

theorem analyze_loudLine_result :
    ((new loudLine {}).analyze (.inMemory newYear) strictly).result = .error (.failed
      { stage := .filtering, cause := .filter (.unknownLevel (String.ofList longWord) ⟨1⟩) }) := by
  decide +kernel

/-- The long level fails the run, and what is told of the failure exposes it. -/
theorem analyze_tells_previews_loudLine :
    let o := (new loudLine {}).analyze (.inMemory newYear) strictly
    (Stages.inMemory newYear).Standard ∧ o.TellsPreviews (.inMemory newYear) loudLine strictly ∧
      o.result = .error (.failed
        { stage := .filtering, cause := .filter (.unknownLevel (String.ofList longWord) ⟨1⟩) }) :=
  ⟨Stages.standard_inMemory newYear,
    analyze_tells_previews (Stages.standard_inMemory newYear) (new loudLine {}) strictly,
    analyze_loudLine_result⟩

/-- The event about the failure shows more than a preview of the line. -/
theorem analyze_loudLine_exposes :
    ∃ e ∈ ((new loudLine {}).analyze (.inMemory newYear) strictly).told,
      e.Exposes strictly loudLog := by
  refine ⟨_, analysisFailed_mem_told analyze_loudLine_result,
    Event.exposes_analysisFailed_iff.2 ⟨longWord, by decide +kernel, ?_, by decide +kernel,
      fun t ht => longWord_not_said ht⟩⟩
  have hinside := Cause.level_isInfix_message (String.ofList longWord) ⟨1⟩
  rwa [String.toList_ofList] at hinside

end Analyzer

end LogDigest
