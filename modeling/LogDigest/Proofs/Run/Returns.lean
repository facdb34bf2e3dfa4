import LogDigest.Proofs.Line.Attempts
import LogDigest.Proofs.Run.Act

/-!
# Acts that return and acts that stop

`Returns act r a P` says that the act ends well with the value `a` and leaves a run with the
property `P`, and `StopsAt act r stop` that it stops for this reason. One rule for each way to make
an act, and one for each part of reading where it ends well.
-/

namespace LogDigest.Run

variable {σ ε α β : Type} {r : Run σ} {stages : Stages σ} {P Q : Run σ → Prop}

/-- The act ends well with this value, and the run that it leaves has this property. -/
def Returns (act : Act σ α) (r : Run σ) (a : α) (P : Run σ → Prop) : Prop :=
  ∃ r', outcome act r = (.ok a, r') ∧ P r'

def StopsAt (act : Act σ α) (r : Run σ) (stop : Stop) : Prop :=
  ∃ r', outcome act r = (.error stop, r')

theorem Returns.result {act : Act σ α} {a : α} (h : Returns act r a P) :
    (outcome act r).1 = .ok a := by
  obtain ⟨r', hr, -⟩ := h
  rw [hr]

theorem StopsAt.result {act : Act σ α} {stop : Stop} (h : StopsAt act r stop) :
    (outcome act r).1 = .error stop := by
  obtain ⟨r', hr⟩ := h
  rw [hr]

theorem Returns.bind {x : Act σ α} {f : α → Act σ β} {a : α} {b : β} (hx : Returns x r a P)
    (hf : ∀ r', P r' → Returns (f a) r' b Q) : Returns (x >>= f) r b Q := by
  obtain ⟨r', hx, hP⟩ := hx
  obtain ⟨r'', hfx, hQ⟩ := hf r' hP
  exact ⟨r'', by rw [outcome_bind_ok hx, hfx], hQ⟩

theorem Returns.bind_stopsAt {x : Act σ α} {f : α → Act σ β} {a : α} {stop : Stop}
    (hx : Returns x r a P) (hf : ∀ r', P r' → StopsAt (f a) r' stop) :
    StopsAt (x >>= f) r stop := by
  obtain ⟨r', hx, hP⟩ := hx
  obtain ⟨r'', hfx⟩ := hf r' hP
  exact ⟨r'', by rw [outcome_bind_ok hx, hfx]⟩

theorem StopsAt.bind {x : Act σ α} {stop : Stop} (hx : StopsAt x r stop) (f : α → Act σ β) :
    StopsAt (x >>= f) r stop := by
  obtain ⟨r', hx⟩ := hx
  exact ⟨r', outcome_bind_error hx⟩

theorem returns_pure (a : α) (h : P r) : Returns (pure a : Act σ α) r a P := ⟨r, rfl, h⟩

theorem returns_modify {f : Run σ → Run σ} (h : P (f r)) :
    Returns (modify f : Act σ Unit) r () P := ⟨f r, rfl, h⟩

theorem returns_modifyGet {f : Run σ → α × Run σ} {a : α} (ha : (f r).1 = a) (h : P (f r).2) :
    Returns (modifyGet f : Act σ α) r a P := ⟨(f r).2, by rw [outcome_modifyGet, ha], h⟩

theorem returns_perform {stage : Stage} {cause : ε → Cause} {call : Call ε α} {a : α}
    (hcall : call.result = .returned a) (h : P (hear stages r call)) :
    Returns (perform stages stage cause call) r a P :=
  ⟨hear stages r call, by rw [outcome_perform, hcall]; rfl, h⟩

theorem stopsAt_perform {stage : Stage} {cause : ε → Cause} {call : Call ε α} {e : ε}
    (hcall : call.result = .failed e) :
    StopsAt (perform stages stage cause call) r (.failed { stage, cause := cause e }) :=
  ⟨hear stages r call, by rw [outcome_perform, hcall]; rfl⟩

theorem stopsAt_fail (stage : Stage) (cause : Cause) :
    StopsAt (fail stage cause : Act σ α) r (.failed { stage, cause }) := ⟨r, rfl⟩

/-! ## Reading -/

theorem returns_validate {request : Request} {settings : Settings}
    (hvalid : request.choices.validate = .ok settings)
    (h : P (note stages r [settings.event request.source])) :
    Returns (validate stages request) r settings P := by
  rw [validate, hvalid]
  exact (returns_modify (P := P) h).bind fun r' h' => returns_pure settings h'

theorem stopsAt_validate {request : Request} {e : ConfigError}
    (hvalid : request.choices.validate = .error e) :
    StopsAt (validate stages request) r (.failed { stage := .reading, cause := .config e }) := by
  rw [validate, hvalid]
  exact stopsAt_fail ..

theorem returns_checkPath {source : Path} (hsource : source.isEmpty = false) (h : P r) :
    Returns (checkPath source) r () P := by
  rw [checkPath, hsource]
  exact returns_pure () h

theorem stopsAt_checkPath {source : Path} (hsource : source.isEmpty = true) :
    StopsAt (checkPath source) r
      (.failed { stage := .reading, cause := .source .missingPath }) := by
  rw [checkPath, hsource]
  exact stopsAt_fail ..

/-- Looking at a flag that is down changes nothing. -/
theorem returns_checkFlag (hflag : r.flag = false) (h : P r) : Returns checkFlag r () P := by
  refine ⟨r, ?_, h⟩
  rw [checkFlag, outcome_bind_ok (outcome_get r), hflag]
  rfl

theorem stopsAt_checkFlag (hflag : r.flag = true) :
    StopsAt checkFlag r (.failed { stage := .reading, cause := .source .cancelled }) := by
  refine ⟨r, ?_⟩
  rw [checkFlag, outcome_bind_ok (outcome_get r), hflag]
  rfl

/-- Lines that are entries give records in their order, with the next identities; nothing else is
done but logging. -/
theorem returns_readLines (shape : LineShape) (all : List (List Char)) (number : Nat)
    (pending : List Event) :
    Returns (readLines stages shape.parser number pending all) r
      (r.ids.mintAll (all.filterMap shape.read?)).1 fun r' =>
        ∃ events, r' =
          { note stages r events with ids := (r.ids.mintAll (all.filterMap shape.read?)).2 } := by
  induction all generalizing number pending r with
  | nil => exact ⟨_, rfl, pending.reverse, rfl⟩
  | cons line all ih =>
    rw [readLines]
    cases hread : shape.read? line with
    | none =>
      have hparse : Returns (parseLine shape.parser line) r (.pure none) fun r' => r' = r :=
        returns_modifyGet (by rw [shape.parser_parse, hread])
          (by simp [shape.parser_parse, hread, Call.pure])
      refine hparse.bind fun r₁ h₁ => ?_
      subst h₁
      rw [List.filterMap_cons_none hread]
      exact ih _ _
    | some e =>
      have hparse : Returns (parseLine shape.parser line) r (.pure (some (r.ids.mint e).1))
          fun r' => r' = { r with ids := (r.ids.mint e).2 } :=
        returns_modifyGet (by rw [shape.parser_parse, hread])
          (by simp [shape.parser_parse, hread, Call.pure])
      refine hparse.bind fun r₁ h₁ => ?_
      subst h₁
      rw [List.filterMap_cons_some hread]
      refine (ih _ _).bind fun r₂ ⟨events, h₂⟩ => returns_pure _ ⟨events, ?_⟩
      rw [h₂]
      rfl

end LogDigest.Run
