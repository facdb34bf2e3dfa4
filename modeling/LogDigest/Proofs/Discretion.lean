import LogDigest.Proofs.Settings
import LogDigest.Proofs.Words
import LogDigest.Run.Analyzer

/-!
# What events tell of the lines of a log

An event may show a line of the log as far as a preview goes, and may show what the request itself
says. It exposes a line if a text of it shows a longer part of the line that is nowhere in the
request (`Request.Exposes`).

Most events are discreet for a simple reason (`Event.Discreet`): each of their texts is no longer
than a preview or stands in the request. What settings tell stands in the request, because a path is
the value that was set without outer blanks.
-/

namespace LogDigest

open Text

/-! ## Texts of events and requests -/

def EventValue.text? : EventValue → Option String
  | .text s | .quoted s => some s
  | .number _ | .flag _ => none

/-- The texts of an event: its message, and its fields that are texts. -/
def Event.texts (e : Event) : List String := e.message :: e.fields.filterMap fun f => f.2.text?

namespace Request

/-- The text is the path of the log, or set for some key. -/
def Says (request : Request) (s : String) : Prop :=
  s = request.source.text ∨ ∃ key, request.choices.get? key = some s

/-- The text shows a part of a line of the log that is longer than a preview and is nowhere in the
request. -/
def Exposes (request : Request) (log : List Char) (s : String) : Prop :=
  ∃ part : List Char, previewLimit < part.length ∧ part <:+: s.toList ∧
    (∃ line ∈ lines log, part <:+: line) ∧ ∀ t, request.Says t → ¬ part <:+: t.toList

/-- The text is no longer than a preview, or stands in the request. -/
def Covers (request : Request) (s : String) : Prop :=
  s.length ≤ previewLimit ∨ ∃ t, request.Says t ∧ s.toList <:+: t.toList

variable {request : Request} {s : String}

theorem Covers.short (h : s.length ≤ previewLimit) : request.Covers s := .inl h

theorem Says.covers (h : request.Says s) : request.Covers s := .inr ⟨s, h, List.infix_rfl⟩

/-- A text that stands in the request or is short exposes nothing. -/
theorem Covers.not_exposes (h : request.Covers s) (log : List Char) : ¬ request.Exposes log s := by
  rintro ⟨part, hlong, hpart, -, hnowhere⟩
  rcases h with hshort | ⟨t, ht, hs⟩
  · have hle := hpart.length_le
    rw [String.length_toList] at hle
    omega
  · exact hnowhere t ht (hpart.trans hs)

end Request

namespace Event

/-- All texts of the event are short or stand in the request. -/
def Discreet (request : Request) (e : Event) : Prop := ∀ s ∈ e.texts, request.Covers s

/-- Some text of the event exposes a line. -/
def Exposes (request : Request) (log : List Char) (e : Event) : Prop :=
  ∃ s ∈ e.texts, request.Exposes log s

variable {request : Request} {e : Event}

theorem Discreet.not_exposes (h : e.Discreet request) (log : List Char) :
    ¬ e.Exposes request log := by
  rintro ⟨s, hs, hexposes⟩
  exact (h s hs).not_exposes log hexposes

/-- The message of an event is short, unless it is a warning about the configuration file. -/
theorem length_message_le (h : ∀ warning, e ≠ .configRejected warning) :
    e.message.length ≤ previewLimit := by
  cases e with
  | configRejected warning => exact absurd rfl (h warning)
  | _ =>
    rw [message]
    decide

end Event

/-! ## Names -/

theorem Stage.length_label_le (s : Stage) : s.label.length ≤ previewLimit := by
  cases s <;> decide

theorem RunState.length_name_le (s : RunState) : s.name.length ≤ previewLimit := by
  cases s with
  | active s | failed s => cases s <;> decide
  | idle | done => decide

theorem LineShape.length_label_le (s : LineShape) : s.label.length ≤ previewLimit := by
  cases s <;> decide

theorem Severity.length_label_le (s : Severity) : s.label.length ≤ previewLimit := by
  cases s <;> decide

theorem LevelPolicy.length_label_le (p : LevelPolicy) : p.label.length ≤ previewLimit := by
  cases p <;> decide

theorem Connectives.length_label_le (c : Connectives) : c.label.length ≤ previewLimit := by
  cases c <;> decide

/-! ## What settings tell -/

namespace Settings

theorem eq_trimmed_of_readPath {key : SettingKey} {value : String} {path : Path}
    (h : readPath key value = .ok path) : path = ⟨trimmed value⟩ := by
  rw [readPath] at h
  split at h <;> cases h
  rfl

theorem eq_trimmed_of_readExportPath {value : String} {path : Path}
    (h : readExportPath value = .ok path) : path = ⟨trimmed value⟩ := by
  rw [readExportPath] at h
  split at h
  · cases h
  · rename_i read hread
    split at h <;> cases h
    exact eq_trimmed_of_readPath hread

end Settings

namespace Choices

theorem get?_of_required {c : Choices} {key : SettingKey} {value : String}
    (h : c.required key = .ok value) : c.get? key = some value := by
  rw [required] at h
  split at h <;> cases h
  rename_i hvalue
  exact (Option.filter_eq_some_iff.1 hvalue).1

/-- The texts of valid settings are values that were set, paths without their outer blanks. -/
theorem texts_of_validate {c : Choices} {settings : Settings} (h : c.validate = .ok settings) :
    (∃ value, c.get? .outputPath = some value ∧ settings.output = ⟨Settings.trimmed value⟩) ∧
      settings.selection.criteria = (c.get? .filter).getD "" := by
  rw [validate] at h
  obtain ⟨level, -, h⟩ := exists_of_bind_ok h
  obtain ⟨minimum, -, h⟩ := exists_of_bind_ok h
  obtain ⟨value, hvalue, h⟩ := exists_of_bind_ok h
  obtain ⟨output, houtput, h⟩ := exists_of_bind_ok h
  obtain ⟨shape, -, h⟩ := exists_of_bind_ok h
  obtain ⟨policy, -, h⟩ := exists_of_bind_ok h
  obtain ⟨connectives, -, h⟩ := exists_of_bind_ok h
  obtain ⟨workers, -, h⟩ := exists_of_bind_ok h
  obtain ⟨exportTo, -, h⟩ := exists_of_bind_ok h
  cases h
  exact ⟨⟨value, get?_of_required hvalue, Settings.eq_trimmed_of_readPath houtput⟩, rfl⟩

end Choices

namespace Request

variable {request : Request} {settings : Settings}

/-- A value that was set, without its outer blanks, stands in the request. -/
theorem covers_trimmed {key : SettingKey} {value : String}
    (h : request.choices.get? key = some value) : request.Covers (Settings.trimmed value) := by
  refine .inr ⟨value, .inr ⟨key, h⟩, ?_⟩
  rw [Settings.trimmed, String.toList_ofList]
  exact isInfix_trim value.toList

theorem covers_output (h : request.choices.validate = .ok settings) :
    request.Covers settings.output.text := by
  obtain ⟨⟨value, hvalue, houtput⟩, -⟩ := Choices.texts_of_validate h
  rw [houtput]
  exact covers_trimmed hvalue

theorem covers_criteria (h : request.choices.validate = .ok settings) :
    request.Covers settings.selection.criteria := by
  rw [(Choices.texts_of_validate h).2]
  cases hvalue : request.choices.get? .filter with
  | none => exact .short (by decide)
  | some value => exact Says.covers (.inr ⟨.filter, hvalue⟩)

theorem covers_exportTo {path : Path} (h : request.choices.validate = .ok settings)
    (hpath : settings.exportTo = some path) : request.Covers path.text := by
  have hread := Choices.optional_exportPath_of_validate h
  rw [hpath] at hread
  obtain ⟨value, hvalue, hread⟩ := Choices.optional_of_ok hread
  rw [Settings.eq_trimmed_of_readExportPath hread]
  exact covers_trimmed hvalue

theorem covers_source : request.Covers request.source.text := Says.covers (.inl rfl)

end Request

/-! ## Discreet events -/

/-- A priority other than the lowest is that of a short level. -/
theorem Priority.length_le_of_ofLevel {level : String} (h : ofLevel level ≠ .low) :
    level.length ≤ previewLimit := by
  have hlength : ∀ {s : String}, sameLetters level s = true → level.length = s.length := by
    intro s hs
    have hlower := congrArg (fun t => t.toList.length) (beq_iff_eq.1 hs)
    rw [← String.length_toList, ← String.length_toList]
    simpa [lower] using hlower
  rw [ofLevel] at h
  split at h
  · rename_i herror
    rw [hlength herror]
    decide
  · split at h
    · rename_i hwarning
      rw [hlength hwarning]
      decide
    · exact absurd rfl h

namespace Event

variable {request : Request} {e : Event}

theorem discreet_of_texts {texts : List String} (h : ∀ warning, e ≠ .configRejected warning)
    (htexts : e.texts = e.message :: texts) (hcovers : ∀ s ∈ texts, request.Covers s) :
    e.Discreet request := by
  rw [Discreet, htexts]
  exact List.forall_mem_cons.2 ⟨.short (length_message_le h), hcovers⟩

/-- An event without texts in its fields. -/
theorem discreet_of_textless (h : ∀ warning, e ≠ .configRejected warning)
    (htexts : e.texts = [e.message]) : e.Discreet request :=
  discreet_of_texts h htexts nofun

theorem discreet_of_text {s : String} (h : ∀ warning, e ≠ .configRejected warning)
    (htexts : e.texts = [e.message, s]) (hs : request.Covers s) : e.Discreet request :=
  discreet_of_texts h htexts (List.forall_mem_singleton.2 hs)

theorem discreet_transition (before after : RunState) :
    (transition before.name after.name).Discreet request := by
  refine discreet_of_texts nofun rfl (List.forall_mem_cons.2 ⟨.short before.length_name_le, ?_⟩)
  exact List.forall_mem_singleton.2 (.short after.length_name_le)

theorem discreet_settings {settings : Settings} (h : request.choices.validate = .ok settings) :
    (settings.event request.source).Discreet request := by
  refine discreet_of_texts nofun rfl (List.forall_mem_cons.2 ⟨Request.covers_source, ?_⟩)
  refine List.forall_mem_cons.2 ⟨Request.covers_output h, List.forall_mem_cons.2 ⟨?_, ?_⟩⟩
  · exact .short (Severity.length_label_le _)
  · exact List.forall_mem_singleton.2 (.short (LineShape.length_label_le _))

/-- Of a discarded line a preview is shown. -/
theorem discreet_of_mem_event? {o : LineOutcome} {number : Nat} (h : e ∈ o.event? number) :
    e.Discreet request := by
  rw [LineOutcome.event?] at h
  split at h
  · cases h
  · split at h <;> cases h
    refine discreet_of_text nofun rfl (.short ?_)
    rw [String.length_ofList, List.length_take]
    exact Nat.min_le_left _ _

theorem discreet_textParsed (shape : LineShape) (lines parsed discarded : Nat) :
    (textParsed shape.label lines parsed discarded).Discreet request :=
  discreet_of_text nofun rfl (.short shape.length_label_le)

theorem discreet_logRead (shape : LineShape) (parsed discarded : Nat) :
    (logRead request.source.text shape.label parsed discarded).Discreet request :=
  discreet_of_texts nofun rfl (List.forall_mem_cons.2
    ⟨Request.covers_source, List.forall_mem_singleton.2 (.short shape.length_label_le)⟩)

theorem discreet_of_mem_selection {selection : FilterSettings} {records : List Record}
    (hcriteria : request.Covers selection.criteria) (h : e ∈ selection.events records) :
    e.Discreet request := by
  rw [FilterSettings.events] at h
  split at h
  · cases h
  · rcases List.mem_cons.1 h with rfl | h
    · refine discreet_of_texts nofun rfl (List.forall_mem_cons.2 ⟨hcriteria, ?_⟩)
      exact List.forall_mem_singleton.2 (.short (Connectives.length_label_le _))
    · split at h
      · cases h
      · rw [List.mem_singleton] at h
        subst h
        refine discreet_of_texts nofun rfl (List.forall_mem_cons.2 ⟨?_, ?_⟩)
        · exact .short (Severity.length_label_le _)
        · exact List.forall_mem_singleton.2 (.short (LevelPolicy.length_label_le _))

theorem discreet_of_mem_classify {r : Record} (h : e ∈ (classify r).events) :
    e.Discreet request := by
  rw [classify, List.mem_singleton] at h
  subst h
  cases hpriority : r.priority with
  | low => exact discreet_of_text nofun rfl (.short (by decide))
  | high | medium =>
    have hlevel : Priority.ofLevel r.level ≠ .low := by
      have heq : Priority.ofLevel r.level = r.priority := rfl
      rw [heq, hpriority]
      nofun
    refine discreet_of_texts nofun rfl (List.forall_mem_cons.2 ⟨.short (by decide), ?_⟩)
    exact List.forall_mem_singleton.2 (.short (Priority.length_le_of_ofLevel hlevel))

theorem discreet_of_mem_exportEvents {path : Path} {records : List Record}
    (hpath : request.Covers path.text) (h : e ∈ exportEvents path records) :
    e.Discreet request := by
  rw [exportEvents] at h
  split at h
  · rw [List.mem_singleton] at h
    subst h
    exact discreet_of_text nofun rfl hpath
  · cases h

theorem discreet_runFinalized (state : RunState) (finalizations : Nat) :
    (runFinalized state.name finalizations).Discreet request :=
  discreet_of_text nofun rfl (.short state.length_name_le)

end Event

/-! ## The event about a failure -/

namespace Event

/-- Apart from the stage, a failure tells its cause. -/
theorem exposes_analysisFailed_iff {request : Request} {log : List Char} {stage : Stage}
    {error : String} :
    (analysisFailed stage.label error).Exposes request log ↔ request.Exposes log error := by
  have htexts : (analysisFailed stage.label error).texts =
      ["Analysis failed", stage.label, error] := rfl
  constructor
  · rintro ⟨s, hs, hexposes⟩
    rw [htexts] at hs
    rcases List.mem_cons.1 hs with rfl | hs
    · exact absurd hexposes (Request.Covers.not_exposes (.short (by decide)) log)
    rcases List.mem_cons.1 hs with rfl | hs
    · exact absurd hexposes (Request.Covers.not_exposes (.short stage.length_label_le) log)
    · rw [List.mem_singleton.1 hs] at hexposes
      exact hexposes
  · intro hexposes
    exact ⟨error, by simp [htexts], hexposes⟩

end Event

end LogDigest
