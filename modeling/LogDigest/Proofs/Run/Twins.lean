import LogDigest.Proofs.Line.Attempts
import LogDigest.Proofs.Run.Act
import LogDigest.Proofs.Run.Shift

/-!
# Twin runs

Two runs over files that answer alike, where the counter of identities is ahead by `d` in the second
one, do the same, step by step, but for the shift of the identities.

**Assumptions.** The replaceable parts look at no identity and adopt none (`Stages.Blind`): what
they do with shifted records is what they do with the records, shifted. If the counter is ahead by
nothing this holds of all parts. The files answer alike (`Stages.Respects`): the relation between
them tells what can be read and what is refused, and is kept by writing and logging.

**Twins** (`Twin`). The runs agree in all that a run can look at: state, counts and flag are the
same, records and counter are shifted. `Agree` is the triple for two acts side by side, with a rule
for each operation of runs; every part of a stage takes twins to twins.
-/

namespace LogDigest

variable {σ ε α β : Type}

/-! ## Calls that do the same -/

/-- The call without what it logs. -/
def Call.quiet (call : Call ε α) : Call ε α := { call with events := [] }

/-- The call with another failure and another value. -/
def Call.map (f : ε → ε) (g : α → α) (call : Call ε α) : Call ε α :=
  { call with
    result :=
      match call.result with
      | .returned a => .returned (g a)
      | .failed e => .failed (f e)
      | .unwound message => .unwound message }

/-- The parser looks at no identity and adopts none: with a counter that is ahead by `d` it makes
the records that it makes without, shifted, and leaves the counter ahead by `d`. -/
def LineParser.Blind (parser : LineParser) (d : UInt64) : Prop :=
  ∀ line ids,
    (parser.parse line ⟨ids.next + d⟩).1.quiet =
        ((parser.parse line ids).1.map id (·.map (·.shift d))).quiet ∧
      (parser.parse line ⟨ids.next + d⟩).2.next = (parser.parse line ids).2.next + d

/-- The parts of a run look at no identity and adopt none: with records that are shifted they do
what they do without, shifted. The records that they select are in the same order after shifting if
the given ones are, as when they are some of these. -/
structure Stages.Blind (stages : Stages σ) (d : UInt64) : Prop where
  parser : ∀ parser, stages.parser = some parser → parser.Blind d
  select : ∀ settings records, (stages.select settings (records.map (·.shift d))).quiet =
    ((stages.select settings records).map (·.shift d) (·.map (·.shift d))).quiet
  aligned : ∀ settings records kept, (stages.select settings records).result = .returned kept →
    Aligned d records → Aligned d kept
  processor : ∀ r, (stages.processor (r.shift d)).quiet = (stages.processor r).quiet
  schedule : ∀ workers records,
    stages.schedule workers (records.map (·.shift d)) = stages.schedule workers records
  aggregate : ∀ records,
    (stages.aggregate (records.map (·.shift d))).quiet = (stages.aggregate records).quiet

theorem Call.map_id {f : ε → ε} {g : α → α} (hf : ∀ e, f e = e) (hg : ∀ a, g a = a)
    (call : Call ε α) : call.map f g = call := by
  rcases call with ⟨a | e | message, cancels, events⟩ <;> simp only [map, hf, hg]

theorem Call.eq_of_quiet {call call' : Call ε α} (h : call'.quiet = call.quiet) :
    call'.result = call.result ∧ call'.cancels = call.cancels := by
  injection h with hresult hcancels
  exact ⟨hresult, hcancels⟩

theorem LineParser.blind_zero (parser : LineParser) : parser.Blind 0 := by
  intro line ids
  have hmap : ∀ record : Option Record, record.map (·.shift 0) = record := by
    intro record
    cases record with
    | none => rfl
    | some r => exact congrArg some r.shift_zero
  have hids : (⟨ids.next + 0⟩ : IdCounter) = ids := by simp
  rw [hids, Call.map_id (f := id) (fun _ => rfl) hmap, UInt64.add_zero]
  exact ⟨rfl, rfl⟩

theorem LineShape.parser_blind (shape : LineShape) (d : UInt64) : shape.parser.Blind d := by
  intro line ids
  rw [shape.parser_parse, shape.parser_parse]
  cases shape.read? line with
  | none => exact ⟨rfl, rfl⟩
  | some e =>
    refine ⟨rfl, ?_⟩
    simp only [IdCounter.mint, IdCounter.fresh, UInt64.add_assoc, UInt64.add_comm 1]

theorem Stages.Blind.parser_getD {stages : Stages σ} {d : UInt64} (h : stages.Blind d)
    (shape : LineShape) : (stages.parser.getD shape.parser).Blind d := by
  cases hparser : stages.parser with
  | none => exact shape.parser_blind d
  | some parser => exact h.parser parser hparser

/-- All parts are blind to a shift by nothing. -/
theorem Stages.blind_zero (stages : Stages σ) : stages.Blind 0 where
  parser parser _ := parser.blind_zero
  select settings records := by
    rw [Record.map_shift_zero, Call.map_id FilterError.shift_zero Record.map_shift_zero]
  aligned _ _ kept _ _ := aligned_zero kept
  processor r := by rw [Record.shift_zero]
  schedule workers records := by rw [Record.map_shift_zero]
  aggregate records := by rw [Record.map_shift_zero]

/-- Bytes for a path, and what they are when identities are shifted: they are the same, or both are
the export of the records, before and after shifting. -/
inductive Reworded (d : UInt64) (path : Path) : List UInt8 → List UInt8 → Prop
  | same (bytes : List UInt8) : Reworded d path bytes bytes
  | exported {records : List Record} {bytes bytes' : List UInt8}
      (before : exportFor path records = .ok bytes)
      (after : exportFor path (records.map (·.shift d)) = .ok bytes') :
      Reworded d path bytes bytes'

/-- Files so related answer alike, and writing and logging keep them related. -/
structure Stages.Respects (stages : Stages σ) (d : UInt64) (R : σ → σ → Prop) : Prop where
  read : ∀ {s t} path, R s t → (stages.read t path).quiet = (stages.read s path).quiet
  write : ∀ {s t path bytes bytes'}, R s t → Reworded d path bytes bytes' →
    (stages.write t path bytes').2.quiet = (stages.write s path bytes).2.quiet ∧
      R (stages.write s path bytes).1 (stages.write t path bytes').1
  log : ∀ {s t} events events', R s t → R (stages.log s events) (stages.log t events')

/-- What a run wrote, and what it wrote when identities are shifted: the report is the same, and the
exports are those of the records, before and after shifting. -/
inductive Rewritten (d : UInt64) : List (Path × List UInt8) → List (Path × List UInt8) → Prop
  | none : Rewritten d [] []
  | report (w : Path × List UInt8) : Rewritten d [w] [w]
  | export (w : Path × List UInt8) {path : Path} {records : List Record}
      {bytes bytes' : List UInt8} (before : exportFor path records = .ok bytes)
      (after : exportFor path (records.map (·.shift d)) = .ok bytes') :
      Rewritten d [w, (path, bytes)] [w, (path, bytes')]

namespace Run

/-! ## Twins -/

/-- Two runs that agree in all that a run can look at. The first one has such records and wrote
`ws`, the second one `ws'`. -/
structure Twin (R : σ → σ → Prop) (d : UInt64) (fit : List Record → Prop)
    (ws ws' : List (Path × List UInt8)) (r s : Run σ) : Prop where
  store : R r.store s.store
  state : s.state = r.state
  records : s.records = r.records.map (·.shift d)
  fit : fit r.records
  stats : s.stats = r.stats
  flag : s.flag = r.flag
  ids : s.ids.next = r.ids.next + d
  writes : r.journal.writes = ws
  writes' : s.journal.writes = ws'

def StoppedTwin (R : σ → σ → Prop) (d : UInt64) (r s : Run σ) : Prop :=
  ∃ ws ws', Rewritten d ws ws' ∧ Twin R d (fun _ => True) ws ws' r s

variable {R : σ → σ → Prop} {d : UInt64} {fit : List Record → Prop}
  {ws ws' : List (Path × List UInt8)} {r s : Run σ} {stages : Stages σ}

theorem Twin.loosen {fit' : List Record → Prop} (h : Twin R d fit ws ws' r s)
    (hfit : fit r.records → fit' r.records) : Twin R d fit' ws ws' r s :=
  { h with fit := hfit h.fit }

theorem Twin.stopped (h : Twin R d fit ws ws' r s) (hws : Rewritten d ws ws') :
    StoppedTwin R d r s :=
  ⟨ws, ws', hws, h.loosen fun _ => trivial⟩

theorem Twin.note (hR : stages.Respects d R) (h : Twin R d fit ws ws' r s)
    (events events' : List Event) :
    Twin R d fit ws ws' (note stages r events) (note stages s events') :=
  { h with store := hR.log events events' h.store }

theorem Twin.noteUnits (hR : stages.Respects d R) (h : Twin R d fit ws ws' r s)
    (events events' : List Event) :
    Twin R d fit ws ws' (noteUnits stages r events) (noteUnits stages s events') :=
  { h with store := hR.log events events' h.store }

theorem Twin.hear (hR : stages.Respects d R) (h : Twin R d fit ws ws' r s)
    {call call' : Call ε α} (hcancels : call'.cancels = call.cancels) :
    Twin R d fit ws ws' (hear stages r call) (hear stages s call') :=
  { h.note hR call.events call'.events with
    flag := by rw [Run.hear, Run.hear, h.flag, hcancels] }

/-! ## Acts side by side -/

/-- Both acts end well and in this relation, or stop for the same reason, with the runs as twins. -/
def EndAlike (R : σ → σ → Prop) (d : UInt64) (Q : α → α → Run σ → Run σ → Prop) :
    Except Stop α × Run σ → Except Stop α × Run σ → Prop
  | (.ok a, r), (.ok b, s) => Q a b r s
  | (.error stop, r), (.error stop', s) => stop' = stop.shift d ∧ StoppedTwin R d r s
  | _, _ => False

/-- On runs related by `P` the acts end alike. -/
def Agree (R : σ → σ → Prop) (d : UInt64) (P : Run σ → Run σ → Prop) (x y : Act σ α)
    (Q : α → α → Run σ → Run σ → Prop) : Prop :=
  ∀ r s, P r s → EndAlike R d Q (outcome x r) (outcome y s)

namespace Agree

variable {P : Run σ → Run σ → Prop} {Q : α → α → Run σ → Run σ → Prop}
  {Q' : β → β → Run σ → Run σ → Prop}

theorem pure {a b : α} (h : ∀ r s, P r s → Q a b r s) :
    Agree R d P (pure a : Act σ α) (pure b) Q := h

theorem bind {x y : Act σ α} {f g : α → Act σ β} (hx : Agree R d P x y Q)
    (hf : ∀ a b, Agree R d (Q a b) (f a) (g b) Q') : Agree R d P (x >>= f) (y >>= g) Q' := by
  intro r s h
  have hxy := hx r s h
  rw [outcome_bind, outcome_bind]
  generalize outcome x r = o at hxy ⊢
  generalize outcome y s = o' at hxy ⊢
  rcases o with ⟨_ | a, r'⟩ <;> rcases o' with ⟨_ | b, s'⟩
  · exact hxy
  · exact hxy.elim
  · exact hxy.elim
  · exact hf a b r' s' hxy

theorem assume {p : Prop} {x y : Act σ α} (h : p → Agree R d P x y Q) :
    Agree R d (fun r s => p ∧ P r s) x y Q :=
  fun r s hp => h hp.1 r s hp.2

theorem get : Agree R d P (get : Act σ (Run σ)) get fun a b r s => P a b ∧ P r s :=
  fun _ _ h => ⟨h, h⟩

theorem modify {f g : Run σ → Run σ} {Q : Unit → Unit → Run σ → Run σ → Prop}
    (h : ∀ r s, P r s → Q () () (f r) (g s)) :
    Agree R d P (modify f : Act σ Unit) (modify g) Q := h

theorem modifyGet {f g : Run σ → α × Run σ}
    (h : ∀ r s, P r s → Q (f r).1 (g s).1 (f r).2 (g s).2) :
    Agree R d P (modifyGet f : Act σ α) (modifyGet g) Q := h

theorem fail {stage : Stage} {cause cause' : Cause} (hcause : cause' = cause.shift d)
    (hws : Rewritten d ws ws') :
    Agree R d (Twin R d fit ws ws') (fail stage cause : Act σ α) (fail stage cause') Q := by
  intro r s h
  subst hcause
  exact ⟨rfl, h.stopped hws⟩

theorem unwound (message : String) (hws : Rewritten d ws ws') :
    Agree R d (Twin R d fit ws ws') (throw (.unwound message) : Act σ α)
      (throw (.unwound message)) Q :=
  fun _ _ h => ⟨rfl, h.stopped hws⟩

theorem log (hR : stages.Respects d R) (events events' : List Event) :
    Agree R d (Twin R d fit ws ws') (log stages events) (log stages events')
      fun _ _ => Twin R d fit ws ws' :=
  .modify fun _ _ h => h.note hR events events'

theorem enter (hR : stages.Respects d R) (stage : Stage) :
    Agree R d (Twin R d fit ws ws') (enter stages stage) (enter stages stage)
      fun _ _ => Twin R d fit ws ws' :=
  .modify fun _ _ h => { h.note hR _ _ with state := rfl }

/-- Calls that do the same, up to the maps `f` and `g`, end alike. -/
theorem perform (hR : stages.Respects d R) {stage : Stage} {cause : ε → Cause}
    {call call' : Call ε α} {f : ε → ε} {g : α → α} (hcall : call'.quiet = (call.map f g).quiet)
    (hcause : ∀ e, cause (f e) = (cause e).shift d) (hws : Rewritten d ws ws') :
    Agree R d (Twin R d fit ws ws') (perform stages stage cause call)
      (perform stages stage cause call')
      fun a b r s => (call.result = .returned a ∧ b = g a) ∧ Twin R d fit ws ws' r s := by
  intro r s h
  obtain ⟨hresult, hcancels⟩ := Call.eq_of_quiet hcall
  have htwin := h.hear hR hcancels
  rw [outcome_perform, outcome_perform, hresult, Call.map]
  cases hend : call.result with
  | returned a => exact ⟨⟨rfl, rfl⟩, htwin⟩
  | failed e => exact ⟨by rw [hcause]; rfl, htwin.stopped hws⟩
  | unwound message => exact ⟨rfl, htwin.stopped hws⟩

theorem imp {x y : Act σ α} {Q' : α → α → Run σ → Run σ → Prop} (h : Agree R d P x y Q)
    (hQ : ∀ a b r s, Q a b r s → Q' a b r s) : Agree R d P x y Q' := by
  intro r s hP
  have hxy := h r s hP
  rcases hx : outcome x r with ⟨_ | a, r'⟩ <;> rcases hy : outcome y s with ⟨_ | b, s'⟩ <;>
    rw [hx, hy] at hxy
  · exact hxy
  · exact hxy.elim
  · exact hxy.elim
  · exact hQ a b r' s' hxy

/-- Calls that do the same, with nothing to shift, end alike. -/
theorem performSame (hR : stages.Respects d R) {stage : Stage} {cause : ε → Cause}
    {call call' : Call ε α} (hcall : call'.quiet = call.quiet)
    (hcause : ∀ e, cause e = (cause e).shift d) (hws : Rewritten d ws ws') :
    Agree R d (Twin R d fit ws ws') (Run.perform stages stage cause call)
      (Run.perform stages stage cause call') fun a b r s => b = a ∧ Twin R d fit ws ws' r s :=
  have hid : call.map id id = call := call.map_id (fun _ => rfl) fun _ => rfl
  (perform hR (hcall.trans (congrArg Call.quiet hid.symm)) hcause hws).imp
    fun _ _ _ _ h => ⟨h.1.2, h.2⟩

end Agree

end Run

end LogDigest
