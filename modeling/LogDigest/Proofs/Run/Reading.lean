import LogDigest.Proofs.Line.Attempts
import LogDigest.Proofs.Run.Act
import LogDigest.Proofs.Run.Shift

/-!
# What reading leaves

If reading ends well, the counts say how many records the run has, and these have consecutive
identities from the counter on if the parser gives every record the next one. If it stops, the
counts are what they were before.

Only the last part of reading gives identities and sets counts; the parts before it keep both
(`Keeps`).
-/

namespace LogDigest.Run

variable {σ α β γ : Type}

/-- However the act ends, the run is as before in this respect. -/
def Keeps (view : Run σ → γ) (act : Act σ α) : Prop := ∀ r, view (outcome act r).2 = view r

namespace Keeps

variable {view : Run σ → γ}

theorem pure (a : α) : Keeps view (pure a : Act σ α) := fun _ => rfl

theorem fail (stage : Stage) (cause : Cause) : Keeps view (fail stage cause : Act σ α) :=
  fun _ => rfl

theorem unwound (message : String) : Keeps view (throw (.unwound message) : Act σ α) :=
  fun _ => rfl

theorem get : Keeps view (get : Act σ (Run σ)) := fun _ => rfl

theorem modify {f : Run σ → Run σ} (h : ∀ r, view (f r) = view r) :
    Keeps view (modify f : Act σ Unit) := h

theorem modifyGet {f : Run σ → α × Run σ} (h : ∀ r, view (f r).2 = view r) :
    Keeps view (modifyGet f : Act σ α) := h

theorem bind {x : Act σ α} {f : α → Act σ β} (hx : Keeps view x) (hf : ∀ a, Keeps view (f a)) :
    Keeps view (x >>= f) := by
  intro r
  have hr := hx r
  rw [outcome_bind]
  rcases hxr : outcome x r with ⟨_ | a, r'⟩ <;> rw [hxr] at hr
  · exact hr
  · exact (hf a r').trans hr

end Keeps

/-- What only the reading of lines changes: the counter of identities and the counts. -/
def counters (r : Run σ) : IdCounter × TextStats := (r.ids, r.stats)

/-! ### Logging, and asking to cancel

Most views show neither what was logged nor the flag. -/

section Unseen

variable {view : Run σ → γ} {stages : Stages σ}
  (hnote : ∀ r events, view (note stages r events) = view r)
include hnote

theorem keeps_log (events : List Event) : Keeps view (log stages events) :=
  .modify fun r => hnote r events

theorem keeps_validate (request : Request) : Keeps view (validate stages request) := by
  unfold validate
  split
  · exact .fail _ _
  · exact (keeps_log hnote _).bind fun _ => .pure _

variable (hflag : ∀ (r : Run σ) flag, view { r with flag } = view r)
include hflag

theorem keeps_perform {ε : Type} (stage : Stage) (cause : ε → Cause) (call : Call ε α) :
    Keeps view (perform stages stage cause call) := by
  intro r
  rw [outcome_perform]
  exact (hflag _ _).trans (hnote _ _)

/-- Besides, reading lines only takes identities. -/
theorem keeps_readLines (hids : ∀ (r : Run σ) ids, view { r with ids } = view r)
    (parser : LineParser) (number : Nat) (pending : List Event) (all : List (List Char)) :
    Keeps view (readLines stages parser number pending all) := by
  induction all generalizing number pending with
  | nil => exact (keeps_log hnote _).bind fun _ => .pure _
  | cons line all ih =>
    rw [readLines]
    refine Keeps.bind (.modifyGet fun r => ?_) fun call => ?_
    · exact (hflag { r with ids := (parser.parse line r.ids).2 } _).trans (hids r _)
    dsimp only
    split
    · exact (ih _ _).bind fun _ => .pure _
    · exact ih _ _
    · contradiction
    · exact (keeps_log hnote _).bind fun _ => .unwound _

end Unseen

theorem keeps_checkPath {v : Run σ → γ} (source : Path) :
    Keeps v (checkPath source : Act σ Unit) := by
  unfold checkPath
  split
  · exact .fail _ _
  · exact .pure _

theorem keeps_checkFlag {v : Run σ → γ} : Keeps v (checkFlag : Act σ Unit) := by
  refine Keeps.get.bind fun r => ?_
  split
  · exact .fail _ _
  · exact .pure _

theorem keeps_readText (stages : Stages σ) (source : Path) :
    Keeps counters (readText stages source) :=
  .bind (.modifyGet fun _ => rfl) fun _ => keeps_perform (fun _ _ => rfl) (fun _ _ => rfl) _ _ _

/-! ## Reading lines -/

/-- A parser that gives every record the next identity gives the records of lines consecutive
ones. -/
theorem readLines_consecutive (stages : Stages σ) {parser : LineParser} (hparser : parser.OneByOne)
    (number : Nat) (pending : List Event) (all : List (List Char)) (r : Run σ)
    {records : List Record} {r' : Run σ}
    (h : outcome (readLines stages parser number pending all) r = (.ok records, r')) :
    Consecutive r.ids.next records := by
  induction all generalizing number pending r records r' with
  | nil =>
    rw [readLines, outcome_bind_ok (outcome_log ..), outcome_pure] at h
    cases h
    exact .nil
  | cons line all ih =>
    have hline := hparser line r.ids
    rcases hparse : parser.parse line r.ids with ⟨call, ids⟩
    have hlook : outcome (parseLine parser line) r =
        (.ok call, { r with ids, flag := r.flag || call.cancels }) := by
      rw [parseLine, outcome_modifyGet, hparse]
    rw [hparse] at hline
    rw [readLines, outcome_bind_ok hlook] at h
    dsimp only at h hline
    split at h
    · rename_i record hcall
      rw [hcall] at hline
      obtain ⟨hid, rfl⟩ := hline
      rw [outcome_bind] at h
      split at h
      · rename_i rs r'' hrest
        rw [outcome_pure] at h
        cases h
        have hrs := ih _ _ _ hrest
        exact .cons (by rw [hid]; rfl) hrs
      · cases h
    · rename_i hcall
      rw [hcall] at hline
      subst hline
      have hrest := ih _ _ _ h
      exact hrest
    · contradiction
    · rw [outcome_bind_ok (outcome_log ..), outcome_throw] at h
      cases h

/-! ## The stage -/

/-- Reading ended with counts that say how many records there are, and these have consecutive
identities from the counter on if every record was given the next one, or it stopped with the counts
as they were. -/
def ReadsFrom (stages : Stages σ) (start : IdCounter × TextStats) :
    Except Stop α × Run σ → Prop
  | (.ok _, r) =>
    (stages.OneByOne → Consecutive start.1.next r.records) ∧ r.stats.parsed = r.records.length
  | (.error _, r) => r.stats = start.2

theorem Keeps.readsFrom_bind {stages : Stages σ} {x : Act σ α} {f : α → Act σ β} {r : Run σ}
    (hx : Keeps counters x)
    (hf : ∀ a r', counters r' = counters r → ReadsFrom stages (counters r) (outcome (f a) r')) :
    ReadsFrom stages (counters r) (outcome (x >>= f) r) := by
  have hr := hx r
  rw [outcome_bind]
  rcases hxr : outcome x r with ⟨_ | a, r'⟩ <;> rw [hxr] at hr
  · exact congrArg Prod.snd hr
  · exact hf a r' hr

theorem readRecords_readsFrom (stages : Stages σ) (source : Path) (shape : LineShape)
    (all : List (List Char)) (r : Run σ) :
    ReadsFrom stages (counters r)
      (outcome (readRecords stages source (stages.parser.getD shape.parser) all) r) := by
  generalize hparser : stages.parser.getD shape.parser = parser
  have hkeeps : Keeps (fun r => r.stats) (readLines stages parser 1 [] all) :=
    keeps_readLines (fun _ _ => rfl) (fun _ _ => rfl) (fun _ _ => rfl) _ _ _ _
  have hstats := hkeeps r
  rw [readRecords, outcome_bind]
  rcases hread : outcome (readLines stages parser 1 [] all) r with ⟨_ | records, r'⟩ <;>
    rw [hread] at hstats
  · exact hstats
  · refine ⟨fun honeByOne => ?_, rfl⟩
    have hnext : parser.OneByOne := hparser ▸ honeByOne.parser_getD shape
    exact readLines_consecutive stages hnext _ _ _ r hread

theorem readStage_readsFrom (stages : Stages σ) (request : Request) (r : Run σ) :
    ReadsFrom stages (counters r) (outcome (readStage stages request) r) := by
  refine (keeps_validate (fun _ _ => rfl) _).readsFrom_bind fun settings r₁ h₁ => ?_
  suffices h : ReadsFrom stages (counters r₁)
      (outcome (readSource stages request.source settings.shape) r₁) by
    rw [h₁] at h
    rw [outcome_bind]
    rcases hread : outcome (readSource stages request.source settings.shape) r₁ with ⟨_ | _, r₂⟩ <;>
      rw [hread] at h <;> exact h
  refine (keeps_checkPath _).readsFrom_bind fun _ r₂ h₂ => ?_
  rw [← h₂]
  refine keeps_checkFlag.readsFrom_bind fun _ r₃ h₃ => ?_
  rw [← h₃]
  refine (keeps_readText _ _).readsFrom_bind fun text r₄ h₄ => ?_
  rw [← h₄]
  refine keeps_checkFlag.readsFrom_bind fun _ r₅ h₅ => ?_
  rw [← h₅]
  exact readRecords_readsFrom ..

end LogDigest.Run
