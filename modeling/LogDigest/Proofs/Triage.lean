import LogDigest.Proofs.Line.Levels
import LogDigest.Proofs.Run.Processing
import LogDigest.Proofs.Taking
import LogDigest.Proofs.Thresholds

/-!
# The threshold and the triage agree on what was read

The threshold looks at a level without its outer blanks, the triage at the level as it stands. On a
level that has no outer blanks both see the same, and every reader of lines leaves such a level
(`Record.threshold_agrees_with_triage`).

**Levels** (`LineShape.trim_level`). The level of a plain or an access line is one of its words, and
a word holds no blank at all. Behind the size of a combined line stands any text, and it is trimmed.

**Triage** (`Entry.Agrees`). A severity is asked for by its name in any letter case, and so is a
priority, so on a trimmed level an error is urgent and a warning less so. What reaches the minimum
of warnings is one of the two.

**The pool** (`Pool.events_run`). What a pool tells is what the units that ran tell, one after the
other: a step tells what the unit that runs in it tells, and from there by induction.
-/

namespace LogDigest

open Text

/-! ## Levels have no outer blanks -/

namespace Entry

variable {line : List Char} {e : Entry}

theorem trim_level_of_ofPlainLine? (h : ofPlainLine? line = some e) :
    trim e.level.toList = e.level.toList := by
  unfold ofPlainLine? at h
  split at h
  · rename_i date time level word ws hwords
    obtain ⟨t, -, rfl⟩ := Option.map_eq_some_iff.1 h
    have hmem : level ∈ nonemptyPieces (fun c => isBlank c || c == '.') line := by simp [hwords]
    have hparts := (List.mem_filter.1 hmem).1
    rw [pieces_eq_splitOnP] at hparts
    have hne : level ≠ [] := by simpa using (List.mem_filter.1 hmem).2
    have hblank : NoBlank level := by
      intro c hc
      have hsep := isSep_eq_false_of_mem_splitOnP hparts c hc
      rw [Bool.or_eq_false_iff] at hsep
      exact hsep.1
    simpa using trim_isWord ⟨hne, hblank⟩
  · cases h

theorem trim_level_of_ofAccessWords? (h : ofAccessWords? (words line) = some e) :
    trim e.level.toList = e.level.toList :=
  trim_isWord (isWord_of_mem_words (level_mem_of_ofAccessWords? h))

theorem trim_level_of_ofCombinedLine? (h : ofCombinedLine? line = some e) :
    trim e.level.toList = e.level.toList := by
  obtain ⟨p, -, hentry⟩ := Option.bind_eq_some_iff.1 h
  obtain ⟨t, -, rfl⟩ := Option.map_eq_some_iff.1 hentry
  simpa using trim_trim p.rest

end Entry

/-- **The level of an entry has no outer blanks**, whatever the shape of its line. -/
theorem LineShape.trim_level {shape : LineShape} {line : List Char} {e : Entry}
    (h : shape.read? line = some e) : trim e.level.toList = e.level.toList := by
  cases shape with
  | plain => exact Entry.trim_level_of_ofPlainLine? h
  | access => exact Entry.trim_level_of_ofAccessWords? h
  | combined => exact Entry.trim_level_of_ofCombinedLine? h
  | auto =>
    rw [read?, readAuto?] at h
    split at h
    · rename_i hcombined
      cases h
      exact Entry.trim_level_of_ofCombinedLine? hcombined
    · dsimp only at h
      split at h
      · rename_i haccess
        cases h
        split at haccess
        · exact Entry.trim_level_of_ofAccessWords? haccess
        · cases haccess
      · exact Entry.trim_level_of_ofPlainLine? h

/-! ## Severities and priorities -/

theorem sameLetters_iff {s t : String} : sameLetters s t = true ↔ lower s = lower t := by
  simp [sameLetters]

/-- On a level without outer blanks a severity is named by its name in any letter case. -/
theorem Severity.isNamedBy_iff {s : Severity} {level : String}
    (h : trim level.toList = level.toList) : s.IsNamedBy level ↔ lower level = lower s.label := by
  unfold IsNamedBy
  rw [h, String.ofList_toList, sameLetters_iff, eq_comm]

namespace Priority

variable {level : String}

theorem ofLevel_eq_high_iff : ofLevel level = .high ↔ lower level = lower "Error" := by
  have hname : lower "Error" = lower "error" := by decide +kernel
  unfold ofLevel
  rw [hname, ← sameLetters_iff]
  by_cases herror : sameLetters level "error" = true
  · simp [herror]
  · by_cases hwarning : sameLetters level "warning" = true <;> simp [herror, hwarning]

theorem ofLevel_eq_medium_iff : ofLevel level = .medium ↔ lower level = lower "Warning" := by
  have hname : lower "Warning" = lower "warning" := by decide +kernel
  have hother : lower "error" ≠ lower "warning" := by decide +kernel
  unfold ofLevel
  rw [hname]
  by_cases herror : sameLetters level "error" = true
  · have hlevel := sameLetters_iff.1 herror
    simp [herror, hlevel, hother]
  · rw [← sameLetters_iff]
    by_cases hwarning : sameLetters level "warning" = true <;> simp [herror, hwarning]

end Priority

namespace Entry

/-- The threshold and the triage say the same of the entry. -/
structure Agrees (e : Entry) : Prop where
  trimmed : trim e.level.toList = e.level.toList
  error : e.severity? = some .error ↔ e.isError = true
  high : e.isError = true ↔ e.priority = .high
  medium : e.severity? = some .warning ↔ e.priority = .medium

variable {e : Entry}

theorem agrees_of_trim_level (h : trim e.level.toList = e.level.toList) : e.Agrees := by
  have hseverity : ∀ s, e.severity? = some s ↔ lower e.level = lower s.label := by
    intro s
    unfold severity?
    rw [Severity.ofLevel?_eq_some_iff, Severity.isNamedBy_iff h]
  have hname : lower "Error" = lower "error" := by decide +kernel
  have hisError : e.isError = true ↔ lower e.level = lower "Error" := by
    unfold isError
    rw [sameLetters_iff, hname]
  have hhigh : e.priority = .high ↔ lower e.level = lower "Error" := Priority.ofLevel_eq_high_iff
  have hmedium : e.priority = .medium ↔ lower e.level = lower "Warning" :=
    Priority.ofLevel_eq_medium_iff
  exact {
    trimmed := h
    error := (hseverity .error).trans hisError.symm
    high := hisError.trans hhigh.symm
    medium := (hseverity .warning).trans hmedium.symm }

/-- An entry whose level is at least a warning is urgent. -/
theorem Agrees.priority_of_warning_le (h : e.Agrees) {s : Severity} (hs : e.severity? = some s)
    (hle : Severity.warning ≤ s) : e.priority = .high ∨ e.priority = .medium := by
  cases s with
  | debug => exact absurd hle (by decide)
  | info => exact absurd hle (by decide)
  | warning => exact Or.inr (h.medium.1 hs)
  | error => exact Or.inl (h.high.1 (h.error.1 hs))

/-- An entry whose level is below a warning, or unknown, is not urgent. -/
theorem Agrees.priority_eq_low (h : e.Agrees)
    (hbelow : ∀ s, e.severity? = some s → ¬ Severity.warning ≤ s) : e.priority = .low := by
  cases hpriority : e.priority with
  | high => exact absurd (by decide) (hbelow .error (h.error.2 (h.high.2 hpriority)))
  | medium => exact absurd (by decide) (hbelow .warning (h.medium.2 hpriority))
  | low => rfl

end Entry

/-! ## What a pool tells -/

namespace Pool

variable {units : List UnitCall} {p p' : Pool}

/-- What the units that ran tell, in the order in which they ran. -/
def tells (units : List UnitCall) (trace : List PoolEvent) : List Event :=
  (trace.filterMap PoolEvent.runner?).flatMap fun u => (units[u]?.map (·.events)).getD []

theorem tells_append (trace trace' : List PoolEvent) :
    tells units (trace ++ trace') = tells units trace ++ tells units trace' := by
  simp [tells]

theorem Does.events {s : PoolStep} {e : Option PoolEvent} (h : Does units p s e p') :
    p'.events = p.events ++ tells units e.toList := by
  cases h with
  | idle => simp [tells]
  | raise => simp [tells]
  | skip => simp [tells, PoolEvent.runner?]
  | start => simp [tells, PoolEvent.runner?]
  | run started call => simp [tells, PoolEvent.runner?, call]

theorem events_steps (p : Pool) (steps : Schedule) :
    (steps.foldl (step units) p).events = p.events ++ tells units (trace units p steps) := by
  induction steps generalizing p with
  | nil => simp [trace, tells]
  | cons s steps ih =>
    rw [List.foldl_cons, ih, (step_does p s).events, trace, tells_append, List.append_assoc]

/-- **A pool tells what the units that ran tell**, one after the other. -/
theorem events_run (units : List UnitCall) (schedule : Schedule) (flag : Bool) :
    (run units schedule flag).events = tells units (history units schedule flag) :=
  events_steps { flag } _

end Pool

namespace Record

/-- What is told of a record when its priority is known. -/
def triaged (r : Record) : Event :=
  .classified r.id.value.toNat r.priority r.level r.statusCode.toInt

/-- The units of work that tell the priorities of records. -/
def triageUnits (records : List Record) : List WorkUnit :=
  records.map fun r => { record := r, call := classify r }

theorem unitEvents_triage (records : List Record) (schedule : Schedule) (flag : Bool) :
    (processAll classify schedule flag records).unitEvents =
      ((workHistory (triageUnits records) schedule flag).filterMap PoolEvent.runner?).filterMap
        fun u => records[u]?.map triaged := by
  have hunit : ∀ u : Nat, (((triageUnits records).map (·.call))[u]?.map UnitCall.events).getD [] =
      (records[u]?.map triaged).toList := by
    intro u
    simp only [triageUnits, List.getElem?_map]
    cases records[u]? <;> rfl
  show (Pool.run ((triageUnits records).map (·.call)) schedule flag).events = _
  rw [Pool.events_run, Pool.tells, workHistory]
  simp only [hunit]
  exact (List.filterMap_eq_flatMap_toList _ _).symm

theorem triaged_level {r : Record} (h : r.priority = .high ∨ r.priority = .medium) :
    r.triaged.level = .debug := by
  unfold triaged Event.level
  rcases h with h | h <;> rw [h]

/-! ## Records that were read -/

/-- The record was made of a line. -/
def WasRead (r : Record) : Prop :=
  ∃ (shape : LineShape) (line : List Char) (c : IdCounter),
    ((Attempt.ofLine shape line).outcome c).1 = some r

theorem wasRead_iff {r : Record} :
    r.WasRead ↔ ∃ (shape : LineShape) (line : List Char), shape.read? line = some r.toEntry := by
  constructor
  · rintro ⟨shape, line, c, hmade⟩
    refine ⟨shape, line, ?_⟩
    rw [Attempt.takes_ofLine shape line c] at hmade
    cases hread : shape.read? line with
    | none => simp [hread] at hmade
    | some e =>
      simp only [hread, Option.some.injEq] at hmade
      rw [← hmade]
      rfl
  · rintro ⟨shape, line, hread⟩
    refine ⟨shape, line, ⟨r.id.value⟩, ?_⟩
    rw [Attempt.takes_ofLine shape line, hread]
    rfl

theorem WasRead.agrees {r : Record} (h : r.WasRead) : r.Agrees := by
  obtain ⟨shape, line, hread⟩ := wasRead_iff.1 h
  exact Entry.agrees_of_trim_level (LineShape.trim_level hread)

/-- Records that are gathered from a text were made of its lines. -/
theorem wasRead_of_mem_gathered {shape : LineShape} {text : List Char} {c : IdCounter} {r : Record}
    (h : r ∈ (Gathered.ofText (Attempt.ofLine shape) text c).1.records) : r.WasRead := by
  have hentries : (Gathered.ofText (Attempt.ofLine shape) text c).1.records.map (·.toEntry) =
      (lines text).filterMap shape.read? := by
    rw [(Gathered.covers_ofText shape text c).records, IdCounter.map_toEntry_mintAll]
  have hmem : r.toEntry ∈ (lines text).filterMap shape.read? := by
    rw [← hentries]
    exact List.mem_map_of_mem h
  obtain ⟨line, -, hread⟩ := List.mem_filterMap.1 hmem
  exact wasRead_iff.2 ⟨shape, line, hread⟩

/-- **The threshold agrees with the triage.** The level of a record that was made of a line has no
outer blanks; it is an error for the threshold, for the record itself and for the triage, or for
none of them, and likewise a warning, and if it is unknown the work on the record tells nothing at
debug level. So whatever a selection from such records keeps at the minimum of warnings, or a higher
one, is urgent, and the work on it tells that, whichever units of it run and in whatever order. The
records of a text are such records. -/
theorem threshold_agrees_with_triage :
    (∀ r : Record, r.WasRead →
      r.Agrees ∧ (r.severity? = none → ∀ e ∈ (classify r).events, e.level ≠ .debug)) ∧
    (∀ (s : FilterSettings) (records kept : List Record), (∀ r ∈ records, r.WasRead) →
      Severity.warning ≤ s.threshold.minimum → s.apply records = .ok kept →
        (∀ r ∈ kept, (r.priority = .high ∨ r.priority = .medium) ∧
          (classify r).events = [r.triaged] ∧ r.triaged.level = .debug) ∧
        ∀ schedule flag, (processAll classify schedule flag kept).unitEvents =
          ((workHistory (triageUnits kept) schedule flag).filterMap PoolEvent.runner?).filterMap
            fun u => kept[u]?.map triaged) ∧
    ∀ (shape : LineShape) (text : List Char) (c : IdCounter),
      ∀ r ∈ (Gathered.ofText (Attempt.ofLine shape) text c).1.records, r.WasRead := by
  refine ⟨fun r hread => ⟨hread.agrees, fun hunknown e he => ?_⟩,
    fun s records kept hread hle hkept => ⟨fun r hr => ?_, unitEvents_triage kept⟩,
    fun shape text c r => wasRead_of_mem_gathered⟩
  · have hlow : r.priority = .low := by
      apply hread.agrees.priority_eq_low
      intro s hs
      rw [hunknown] at hs
      cases hs
    have htold : e = r.triaged := List.mem_singleton.1 he
    rw [htold, triaged, hlow]
    exact nofun
  · obtain ⟨f, -, -, rfl⟩ := FilterSettings.apply_eq_ok_iff.1 hkept
    obtain ⟨hmem, hkeeps⟩ := List.mem_filter.1 hr
    obtain ⟨severity, hnamed, hminimum⟩ := (FilterSettings.keeps_iff.1 hkeeps).1
    have hurgent := (hread r hmem).agrees.priority_of_warning_le
      (severity?_eq_some_iff.2 hnamed) (Severity.le_trans hle hminimum)
    exact ⟨hurgent, rfl, triaged_level hurgent⟩

/-- A warning in odd letters, an error behind the size of a combined line with blanks around it, and
an unknown level: the first two are kept, and told of in the order in which their units run. -/
theorem threshold_agrees_with_triage_oddLevels :
    let text := ("2024-01-01 00:00:00 wArNiNg slow\n" ++
      "10.0.0.1 - - [01/Jan/2024:00:00:00 +0000] \"GET /\" 200 5  \u00a0ERROR\t\n" ++
      "2024-01-01 00:00:00 Loud [Thread-1] - - - 200 noise\n").toList
    let warning : Record :=
      { timestamp := newYear, level := "wArNiNg", message := "slow", id := ⟨1⟩ }
    let error : Record :=
      { timestamp := newYear, level := "ERROR", sourceIp := some "10.0.0.1",
        request := some "GET /", statusCode := 200, size := some 5, id := ⟨2⟩ }
    let noise : Record :=
      { timestamp := newYear, level := "Loud", threadId := some 1, statusCode := 200,
        message := "noise", id := ⟨3⟩ }
    let s : FilterSettings := { threshold := { minimum := .warning } }
    (Gathered.ofText (Attempt.ofLine .auto) text {}).1.records = [warning, error, noise] ∧
      s.apply [warning, error, noise] = .ok [warning, error] ∧
      warning.Agrees ∧ warning.triaged.level = .debug ∧ error.triaged.level = .debug ∧
      noise.severity? = none ∧ (∀ e ∈ (classify noise).events, e.level ≠ .debug) ∧
      (processAll classify [.look 1, .run 1] false [warning, error]).unitEvents =
        [error.triaged, warning.triaged] := by
  intro text warning error noise s
  obtain ⟨hagree, hkeep, hgathered⟩ := threshold_agrees_with_triage
  have hrecords : (Gathered.ofText (Attempt.ofLine .auto) text {}).1.records =
      [warning, error, noise] := by decide +kernel
  have hread : ∀ r ∈ [warning, error, noise], r.WasRead := hrecords ▸ hgathered .auto text {}
  have hkept : s.apply [warning, error, noise] = .ok [warning, error] := by decide +kernel
  have hunknown : noise.severity? = none := by decide +kernel
  have hran : (workHistory (triageUnits [warning, error]) [.look 1, .run 1] false).filterMap
      PoolEvent.runner? = [1, 0] := by decide +kernel
  obtain ⟨hurgent, htold⟩ := hkeep s _ _ hread (by decide) hkept
  have htold := htold [.look 1, .run 1] false
  rw [hran] at htold
  exact ⟨hrecords, hkept, (hagree warning (hread _ (by simp))).1, (hurgent _ (by simp)).2.2,
    (hurgent _ (by simp)).2.2, hunknown, (hagree noise (hread _ (by simp))).2 hunknown, htold⟩

end Record

end LogDigest
