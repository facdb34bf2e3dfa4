import LogDigest.Run.Analyzer

/-!
# Acts of a run

How to reason about the parts of a run by what they do to a run, and not by how they are written.

**Outcomes.** `outcome act r` is how an act ends on a run and what it leaves. The outcome of an act
made of two is the outcome of the second on what the first leaves, unless the first stops.

**Inside a stage.** `Stays stage r r'` lists what a stage keeps of a run: where it stands (its
state, the states it entered, the number of closed runs), a raised flag, and what belongs to another
stage, as the writes to `persisting`. `Inside stage act` says that the act keeps all this, whatever
way it ends, and fails only in this stage and for a cause of this stage. Every part of a stage is
an act of that kind, and the kind is closed under composition. So it is proved part by part, and
nothing else about the stages is needed to know how a run ends.
-/

namespace LogDigest

def Cause.stage : Cause → Stage
  | config _ | source _ => .reading
  | filter _ => .filtering
  | process _ => .processing
  | sink _ | exported _ => .persisting

namespace Run

variable {σ α β γ ε : Type}

/-! ## Outcomes -/

theorem outcome_pure (a : α) (r : Run σ) : outcome (pure a : Act σ α) r = (.ok a, r) := rfl

theorem outcome_throw (stop : Stop) (r : Run σ) :
    outcome (throw stop : Act σ α) r = (.error stop, r) := rfl

theorem outcome_fail (stage : Stage) (cause : Cause) (r : Run σ) :
    outcome (fail stage cause : Act σ α) r = (.error (.failed { stage, cause }), r) := rfl

theorem outcome_get (r : Run σ) : outcome (get : Act σ (Run σ)) r = (.ok r, r) := rfl

theorem outcome_modify (f : Run σ → Run σ) (r : Run σ) :
    outcome (modify f : Act σ Unit) r = (.ok (), f r) := rfl

theorem outcome_modifyGet (f : Run σ → α × Run σ) (r : Run σ) :
    outcome (modifyGet f : Act σ α) r = (.ok (f r).1, (f r).2) := rfl

theorem outcome_log (stages : Stages σ) (events : List Event) (r : Run σ) :
    outcome (log stages events) r = (.ok (), note stages r events) := rfl

theorem outcome_bind (x : Act σ α) (f : α → Act σ β) (r : Run σ) :
    outcome (x >>= f) r =
      match outcome x r with
      | (.ok a, r') => outcome (f a) r'
      | (.error stop, r') => (.error stop, r') := by
  simp only [outcome, bind, EStateM.bind]
  cases x r <;> rfl

theorem outcome_bind_ok {x : Act σ α} {f : α → Act σ β} {r r' : Run σ} {a : α}
    (h : outcome x r = (.ok a, r')) : outcome (x >>= f) r = outcome (f a) r' := by
  rw [outcome_bind, h]

theorem outcome_bind_error {x : Act σ α} {f : α → Act σ β} {r r' : Run σ} {stop : Stop}
    (h : outcome x r = (.error stop, r')) : outcome (x >>= f) r = (.error stop, r') := by
  rw [outcome_bind, h]

def performed (stage : Stage) (cause : ε → Cause) : CallEnd ε α → Except Stop α
  | .returned a => .ok a
  | .failed e => .error (.failed { stage, cause := cause e })
  | .unwound message => .error (.unwound message)

theorem outcome_perform (stages : Stages σ) (stage : Stage) (cause : ε → Cause) (call : Call ε α)
    (r : Run σ) :
    outcome (perform stages stage cause call) r =
      (performed stage cause call.result, hear stages r call) := by
  rw [perform, outcome_bind_ok (outcome_modify _ r)]
  cases call.result <;> rfl

/-! ## What a stage keeps -/

/-- Where a run stands: its state, the states it entered, and the number of closed runs. -/
def standing (r : Run σ) : RunState × List RunState × Nat :=
  (r.state, r.journal.entered, r.finalizations)

/-- What a stage keeps of a run: where it stands, the flag if it is up, and what belongs to another
stage. -/
structure Stays (stage : Stage) (r r' : Run σ) : Prop where
  standing : r'.standing = r.standing
  flag : r.flag = true → r'.flag = true
  stats : stage ≠ .reading → r'.stats = r.stats
  ids : stage ≠ .reading → r'.ids = r.ids
  reads : stage ≠ .reading → r'.journal.reads = r.journal.reads
  writes : stage ≠ .persisting → r'.journal.writes = r.journal.writes

namespace Stays

variable {stage : Stage} {r r' r'' : Run σ}

theorem refl (r : Run σ) : Stays stage r r :=
  ⟨rfl, id, fun _ => rfl, fun _ => rfl, fun _ => rfl, fun _ => rfl⟩

theorem trans (h : Stays stage r r') (h' : Stays stage r' r'') : Stays stage r r'' where
  standing := h'.standing.trans h.standing
  flag := h'.flag ∘ h.flag
  stats hs := (h'.stats hs).trans (h.stats hs)
  ids hs := (h'.ids hs).trans (h.ids hs)
  reads hs := (h'.reads hs).trans (h.reads hs)
  writes hs := (h'.writes hs).trans (h.writes hs)

theorem hear (stages : Stages σ) (r : Run σ) (call : Call ε α) :
    Stays stage r (hear stages r call) where
  standing := rfl
  flag h := by simp [Run.hear, h]
  stats _ := rfl
  ids _ := rfl
  reads _ := rfl
  writes _ := rfl

end Stays

/-! ## Acts inside a stage -/

/-- An act that keeps what its stage keeps, and fails only in this stage, for a cause of it. -/
structure Inside (stage : Stage) (act : Act σ α) : Prop where
  stays : ∀ r, Stays stage r (outcome act r).2
  fails : ∀ {r r' e}, outcome act r = (.error (.failed e), r') →
    e.stage = stage ∧ e.cause.stage = stage

namespace Inside

variable {stage : Stage}

theorem pure (a : α) : Inside stage (pure a : Act σ α) :=
  ⟨Stays.refl, fun h => by cases h⟩

theorem unwound (message : String) : Inside stage (throw (.unwound message) : Act σ α) :=
  ⟨Stays.refl, fun h => by cases h⟩

theorem fail {cause : Cause} (h : cause.stage = stage) :
    Inside stage (fail stage cause : Act σ α) := by
  refine ⟨Stays.refl, fun {r r' e} he => ?_⟩
  rw [outcome_fail] at he
  cases he
  exact ⟨rfl, h⟩

theorem get : Inside stage (get : Act σ (Run σ)) :=
  ⟨Stays.refl, fun h => by cases h⟩

theorem modify {g : Run σ → Run σ} (h : ∀ r, Stays stage r (g r)) :
    Inside stage (modify g : Act σ Unit) :=
  ⟨h, fun h => by cases h⟩

theorem modifyGet {g : Run σ → α × Run σ} (h : ∀ r, Stays stage r (g r).2) :
    Inside stage (modifyGet g : Act σ α) :=
  ⟨h, fun h => by cases h⟩

theorem bind {x : Act σ α} {y : α → Act σ β} (hx : Inside stage x)
    (hy : ∀ a, Inside stage (y a)) : Inside stage (x >>= y) := by
  refine ⟨fun r => ?_, fun {r r' e} h => ?_⟩
  · have hstays := hx.stays r
    rw [outcome_bind]
    rcases hxr : outcome x r with ⟨_ | a, r₁⟩ <;> rw [hxr] at hstays
    · exact hstays
    · exact hstays.trans ((hy a).stays r₁)
  · rw [outcome_bind] at h
    rcases hxr : outcome x r with ⟨_ | a, r₁⟩ <;> rw [hxr] at h
    · cases h
      exact hx.fails hxr
    · exact (hy a).fails h

theorem perform {stages : Stages σ} {cause : ε → Cause} {call : Call ε α}
    (h : ∀ e, (cause e).stage = stage) : Inside stage (perform stages stage cause call) := by
  refine ⟨fun r => ?_, fun {r r' e} he => ?_⟩ <;> rw [outcome_perform] at *
  · exact Stays.hear stages r call
  · cases hc : call.result with
    | returned a => rw [hc] at he; cases he
    | unwound message => rw [hc] at he; cases he
    | failed c => rw [hc] at he; cases he; exact ⟨rfl, h c⟩

theorem log (stages : Stages σ) (events : List Event) : Inside stage (log stages events) :=
  .modify fun _ => ⟨rfl, id, fun _ => rfl, fun _ => rfl, fun _ => rfl, fun _ => rfl⟩

end Inside

end Run

end LogDigest
