import LogDigest.Proofs.Run.Closing
import LogDigest.Proofs.Run.Reading
import LogDigest.Proofs.Run.Standard
import LogDigest.Proofs.Run.TwinStages

/-!
# Every run is a fresh run

Whatever was done with an analyzer, its next run is the first run of a new analyzer over files that
answer alike.

**The counter is the only leak.** A run inherits the counter of identities and nothing else. With
the counter at the same value the two runs are the same, whatever the replaceable parts do. With the
counter ahead by `d` they are the same but for identities that are larger by `d`, if the parts look
at no identity and adopt none and the counter does not wrap. Parts that look at identities can tell
the runs apart, even if they keep no state (`Analyzer.replay_fresh_refusesSecond`).

**How.** Both runs begin as twins, and every part of a stage takes twins to twins. Between reading
and the later stages the order of the identities comes in: it has to be the same in both runs for
the records that were read (`Analyzer.recordsRead`). Records that were given one identity after the
other have consecutive ones, and these keep their order if the counter wraps in neither run.
-/

namespace LogDigest

variable {σ : Type} {stages : Stages σ} {R : σ → σ → Prop} {d : UInt64}

/-! ## Whole runs of twins -/

/-- The second run ended as the first one did, but for identities that are larger by `d`. -/
structure RunOutcome.Shifted (d : UInt64) (o o' : RunOutcome σ) : Prop where
  result : o'.result = o.result.mapError (·.shift d)
  state : o'.analyzer.state = o.analyzer.state
  stats : o'.analyzer.stats = o.analyzer.stats
  writes : Rewritten d o.journal.writes o'.journal.writes

theorem Rewritten.eq_of_zero {ws ws' : List (Path × List UInt8)} (h : Rewritten 0 ws ws') :
    ws' = ws := by
  cases h with
  | none => rfl
  | report w => rfl
  | «export» w before after =>
    rw [Record.map_shift_zero, before] at after
    cases after
    rfl

theorem RunOutcome.Shifted.eq_of_zero {o o' : RunOutcome σ} (h : Shifted 0 o o') :
    o'.result = o.result ∧ o'.analyzer.state = o.analyzer.state ∧
      o'.analyzer.stats = o.analyzer.stats ∧ o'.journal.writes = o.journal.writes := by
  refine ⟨?_, h.state, h.stats, h.writes.eq_of_zero⟩
  rw [h.result]
  cases o.result with
  | ok report => rfl
  | error stop => exact congrArg Except.error stop.shift_zero

namespace Run

theorem Twin.begin (hR : stages.Respects d R) {a b : Analyzer σ} (hstore : R a.store b.store)
    (hrecords : a.records = []) (hrecords' : b.records = []) (hflag : b.flag = a.flag)
    (hids : b.ids.next = a.ids.next + d) (source : Path) :
    Twin R d (fun _ => True) [] [] (begin stages a source) (begin stages b source) :=
  { store := hR.log _ _ hstore
    state := rfl
    records := by simp [Run.begin, Run.note, hrecords, hrecords']
    fit := trivial
    stats := rfl
    flag := hflag
    ids := hids
    writes := rfl
    writes' := rfl }

theorem laterStages_stats (stages : Stages σ) (settings : Settings) :
    Keeps (fun r => r.stats) (laterStages stages settings) := by
  have henter : ∀ stage, Keeps (fun r => r.stats) (enter stages stage) :=
    fun _ => .modify fun _ => rfl
  have hinside : ∀ {α : Type} {stage : Stage} {act : Act σ α}, Inside stage act → stage ≠ .reading →
      Keeps (fun r => r.stats) act := fun h hstage r => (h.stays r).stats hstage
  exact .bind (henter _) fun _ => .bind (hinside (inside_selectRecords ..) nofun) fun _ =>
    .bind (henter _) fun _ => .bind (hinside (inside_processRecords ..) nofun) fun _ =>
    .bind (henter _) fun _ => .bind (hinside (inside_makeReport ..) nofun) fun _ =>
    .bind (henter _) fun _ => .bind (hinside (inside_persist ..) nofun) fun _ => .pure _

theorem stagesInOrder_eq (stages : Stages σ) (request : Request) (r : Run σ) :
    outcome (stagesInOrder stages request) r =
      outcome (readStage stages request >>= laterStages stages)
        (outcome (enter stages .reading) r).2 := rfl

/-- The records that a run has read when its reading ends, none if it does not end well. -/
def recordsRead (stages : Stages σ) (request : Request) (r : Run σ) : List Record :=
  match outcome (readStage stages request) (outcome (enter stages .reading) r).2 with
  | (.ok _, r') => r'.records
  | (.error _, _) => []

/-- Records that were given one identity after the other keep their order under shifting if the
counter wraps neither for them nor for the shifted ones. -/
theorem aligned_recordsRead {request : Request} {r : Run σ} (honeByOne : stages.OneByOne)
    (hwrap : ∀ start ∈ [r.ids.next, r.ids.next + d],
      start.toNat + (outcome (stagesInOrder stages request) r).2.stats.parsed ≤ 2 ^ 64) :
    Aligned d (recordsRead stages request r) := by
  have hids : (outcome (enter stages .reading) r).2.ids = r.ids := rfl
  rw [stagesInOrder_eq, ← hids] at hwrap
  rw [recordsRead]
  generalize (outcome (enter stages .reading) r).2 = r₁ at hwrap ⊢
  have hfrom := readStage_readsFrom stages request r₁
  rw [outcome_bind] at hwrap
  generalize outcome (readStage stages request) r₁ = o at hfrom hwrap ⊢
  rcases o with ⟨stop | settings, r₂⟩
  · exact aligned_nil d
  · obtain ⟨hconsecutive, hparsed⟩ := hfrom
    have hstats : (outcome (laterStages stages settings) r₂).2.stats = r₂.stats :=
      laterStages_stats stages settings r₂
    dsimp only at hwrap
    rw [hstats, hparsed] at hwrap
    exact (hconsecutive honeByOne).aligned (hwrap r₁.ids.next (by simp))
      (hwrap (r₁.ids.next + d) (by simp))

/-- Runs that begin as twins end alike, if shifting keeps the order of what they read. -/
theorem stagesInOrder_alike (hR : stages.Respects d R) (hblind : stages.Blind d)
    (request : Request) {r s : Run σ} (h : Twin R d (fun _ => True) [] [] r s)
    (haligned : Aligned d (recordsRead stages request r)) :
    EndAlike R d (fun a b r s => b = a ∧ StoppedTwin R d r s)
      (outcome (stagesInOrder stages request) r) (outcome (stagesInOrder stages request) s) := by
  have henter : Twin R d (fun _ => True) [] [] (outcome (enter stages .reading) r).2
      (outcome (enter stages .reading) s).2 := Agree.enter hR .reading r s h
  rw [recordsRead] at haligned
  rw [stagesInOrder_eq, stagesInOrder_eq]
  generalize (outcome (enter stages .reading) r).2 = r₁ at henter haligned ⊢
  generalize (outcome (enter stages .reading) s).2 = s₁ at henter ⊢
  have hread := agree_readStage hR hblind request r₁ s₁ henter
  rw [outcome_bind, outcome_bind]
  generalize outcome (readStage stages request) r₁ = o at hread haligned ⊢
  generalize outcome (readStage stages request) s₁ = o' at hread ⊢
  rcases o with ⟨stop | settings, r₂⟩ <;> rcases o' with ⟨stop' | settings', s₂⟩
  · exact hread
  · exact hread.elim
  · exact hread.elim
  · obtain ⟨hsettings, htwin⟩ := hread
    rw [hsettings]
    exact agree_laterStages hR hblind settings r₂ s₂ (htwin.loosen fun _ => haligned)

theorem StoppedTwin.facts {r s : Run σ} (h : StoppedTwin R d r s) :
    s.state = r.state ∧ s.stats = r.stats ∧ Rewritten d r.journal.writes s.journal.writes := by
  obtain ⟨ws, ws', hws, htwin⟩ := h
  refine ⟨htwin.state, htwin.stats, ?_⟩
  rw [htwin.writes, htwin.writes']
  exact hws

/-- What is left of runs that ended alike, once they are concluded. -/
theorem EndAlike.concluded (stages : Stages σ) {o o' : Except Stop Report × Run σ}
    (h : EndAlike R d (fun a b r s => b = a ∧ StoppedTwin R d r s) o o') :
    o'.1 = o.1.mapError (·.shift d) ∧
      (conclude stages o'.2 o'.1).state = (conclude stages o.2 o.1).state ∧
      o'.2.stats = o.2.stats ∧ Rewritten d o.2.journal.writes o'.2.journal.writes := by
  rcases o with ⟨stop | report, r⟩ <;> rcases o' with ⟨stop' | report', s⟩
  · obtain ⟨rfl, htwin⟩ := h
    obtain ⟨hstate, hrest⟩ := htwin.facts
    refine ⟨rfl, ?_, hrest⟩
    cases stop with
    | failed e => rfl
    | unwound message =>
      simp only [Stop.shift, conclude, hstate]
      split <;> simp only [hstate]
  · exact h.elim
  · exact h.elim
  · obtain ⟨rfl, htwin⟩ := h
    exact ⟨rfl, rfl, htwin.facts.2⟩

end Run

namespace Analyzer

open Run

theorem analyze_stats (stages : Stages σ) (a : Analyzer σ) (request : Request) :
    (a.analyze stages request).analyzer.stats =
      (outcome (stagesInOrder stages request) (begin stages a request.source)).2.stats :=
  conclude_keeps (v := fun r => r.stats) (fun _ _ => rfl) (fun _ _ => rfl) _ _

theorem analyze_writes (stages : Stages σ) (a : Analyzer σ) (request : Request) :
    (a.analyze stages request).journal.writes =
      (outcome (stagesInOrder stages request) (begin stages a request.source)).2.journal.writes :=
  conclude_keeps (v := fun r => r.journal.writes) (fun _ _ => rfl) (fun _ _ => rfl) _ _

/-- The records that the next run reads, none if its reading does not end well. -/
def recordsRead (stages : Stages σ) (a : Analyzer σ) (request : Request) : List Record :=
  Run.recordsRead stages request (begin stages a request.source)

/-- Runs of analyzers without records, with flags alike and counters `d` apart, end alike. -/
theorem analyze_shifted (hR : stages.Respects d R) (hblind : stages.Blind d) {a b : Analyzer σ}
    (hstore : R a.store b.store) (hrecords : a.records = []) (hrecords' : b.records = [])
    (hflag : b.flag = a.flag) (hids : b.ids.next = a.ids.next + d) (request : Request)
    (haligned : Aligned d (a.recordsRead stages request)) :
    RunOutcome.Shifted d (a.analyze stages request) (b.analyze stages request) := by
  have halike := stagesInOrder_alike hR hblind request
    (Twin.begin hR hstore hrecords hrecords' hflag hids request.source) haligned
  obtain ⟨hresult, hstate, hstats, hwrites⟩ := halike.concluded stages
  refine ⟨hresult, hstate, ?_, ?_⟩
  · rw [analyze_stats, analyze_stats, hstats]
  · rw [analyze_writes, analyze_writes]
    exact hwrites

/-- A run that stops before all lines are read shows no counts: the counts of the run before are
gone from its beginning on, and past reading no stage fails as reading. -/
theorem analyze_stats_of_failed_reading (stages : Stages σ) (a : Analyzer σ) (request : Request)
    (h : (a.analyze stages request).analyzer.state = .failed .reading) :
    (a.analyze stages request).analyzer.stats = {} := by
  have hstate : (a.analyze stages request).analyzer.state =
      (conclude stages (outcome (stagesInOrder stages request) (begin stages a request.source)).2
        (outcome (stagesInOrder stages request) (begin stages a request.source)).1).state := rfl
  have hplace : standing (outcome (enter stages .reading) (begin stages a request.source)).2 =
      place a.finalizations .reading := rfl
  have hcounters : counters (outcome (enter stages .reading) (begin stages a request.source)).2 =
      (a.ids, {}) := rfl
  rw [hstate, stagesInOrder_eq] at h
  rw [analyze_stats, stagesInOrder_eq]
  generalize (outcome (enter stages .reading) (begin stages a request.source)).2 = r at *
  have hread := readStage_readsFrom stages request r
  have hkeep := ((inside_readStage stages request).stays r).standing.trans hplace
  rw [hcounters] at hread
  rw [outcome_bind] at h ⊢
  generalize outcome (readStage stages request) r = o at hread hkeep h ⊢
  rcases o with ⟨stop | settings, r₂⟩
  · exact hread
  · -- Reading ended well, so the run can only have failed in a later stage.
    have hmem := (laterStages_endsInPlace stages settings hkeep).mem_of_failed h
    exact absurd hmem (by decide)

end Analyzer

end LogDigest
