import LogDigest.Run.Stages

/-!
# Writing to memory

What a write leaves in memory. A file that was written holds the bytes, under every spelling of its
path. No other file changes, and inputs and refusals never do (`SameBut`). A refused write changes
nothing.
-/

namespace LogDigest

/-! ## Paths -/

theorem Path.same_iff {p q : Path} : p.same q = true ↔ p.parts = q.parts := by
  simp [Path.same]

theorem Path.same_self (p : Path) : p.same p = true := Path.same_iff.2 rfl

/-! ## Shelves -/

theorem Shelf.get?_cons (f : Path × List UInt8) (s : Shelf) (q : Path) :
    Shelf.get? (f :: s) q = if f.1.same q then some f.2 else Shelf.get? s q := by
  rw [get?, List.find?_cons]
  cases f.1.same q <;> rfl

/-- What a shelf holds after something was put into it. -/
theorem Shelf.get?_put (path q : Path) (bytes : List UInt8) (s : Shelf) :
    Shelf.get? (put path bytes s) q = if path.same q then some bytes else Shelf.get? s q := by
  induction s with
  | nil => rw [put, get?_cons]
  | cons f s ih =>
    rw [put]
    by_cases hf : f.1.same path
    · have hsame : f.1.same q = path.same q := by
        rw [Bool.eq_iff_iff, Path.same_iff, Path.same_iff, Path.same_iff.1 hf]
      rw [if_pos hf, get?_cons, get?_cons, hsame]
      split <;> rfl
    · rw [if_neg hf, get?_cons, get?_cons, ih]
      by_cases hq : f.1.same q
      · have hpath : ¬ path.same q := by
          intro h
          rw [Path.same_iff] at h hq hf
          exact hf (hq.trans h.symm)
        rw [if_pos hq, if_pos hq, if_neg hpath]
      · rw [if_neg hq, if_neg hq]

/-! ## Memory -/

namespace Memory

def Refuses (m : Memory) (path : Path) : Prop := (m.refusals.any fun p => p.same path) = true

instance (m : Memory) (path : Path) : Decidable (m.Refuses path) :=
  inferInstanceAs (Decidable ((m.refusals.any fun p => p.same path) = true))

/-- Writes a file as a call of a run. -/
def save (m : Memory) (path : Path) (bytes : List UInt8) : Memory × Call IoError Unit :=
  match m.write path bytes with
  | .ok m => (m, .pure ())
  | .error e => (m, { result := .failed e })

theorem save_of_refuses {m : Memory} {path : Path} (h : m.Refuses path) (bytes : List UInt8) :
    m.save path bytes = (m, { result := .failed (.refused path) }) := by
  rw [Refuses] at h
  rw [save, write, if_pos h]

theorem save_of_not_refuses {m : Memory} {path : Path} (h : ¬ m.Refuses path)
    (bytes : List UInt8) :
    m.save path bytes = ({ m with outputs := Shelf.put path bytes m.outputs }, .pure ()) := by
  rw [Refuses] at h
  rw [save, write, if_neg h]

/-- Nothing differs between two memories but what is written under some paths. -/
structure SameBut (paths : List Path) (m m' : Memory) : Prop where
  inputs : m'.inputs = m.inputs
  refusals : m'.refusals = m.refusals
  outputs : ∀ q, (∀ path ∈ paths, path.same q = false) → m'.outputs.get? q = m.outputs.get? q

namespace SameBut

variable {paths paths' : List Path} {m m' m'' : Memory}

theorem refl (m : Memory) : SameBut paths m m := ⟨rfl, rfl, fun _ _ => rfl⟩

theorem trans (h : SameBut paths m m') (h' : SameBut paths m' m'') : SameBut paths m m'' where
  inputs := h'.inputs.trans h.inputs
  refusals := h'.refusals.trans h.refusals
  outputs q hq := (h'.outputs q hq).trans (h.outputs q hq)

theorem mono (h : SameBut paths m m') (hsub : paths ⊆ paths') : SameBut paths' m m' :=
  ⟨h.inputs, h.refusals, fun q hq => h.outputs q fun path hpath => hq path (hsub hpath)⟩

theorem save (m : Memory) (path : Path) (bytes : List UInt8) :
    SameBut [path] m (m.save path bytes).1 := by
  by_cases h : m.Refuses path
  · rw [save_of_refuses h]
    exact refl m
  · rw [save_of_not_refuses h]
    refine ⟨rfl, rfl, fun q hq => ?_⟩
    rw [Shelf.get?_put, hq path (List.mem_singleton_self path)]
    rfl

theorem refuses_iff (h : SameBut paths m m') (path : Path) :
    m'.Refuses path ↔ m.Refuses path := by
  rw [Refuses, Refuses, h.refusals]

end SameBut

/-- Saves files, up to the first one that is refused. -/
def saveAll (m : Memory) : List (Path × List UInt8) → Memory
  | [] => m
  | w :: ws => if m.Refuses w.1 then m else (m.save w.1 w.2).1.saveAll ws

theorem saveAll_sameBut (m : Memory) (ws : List (Path × List UInt8)) :
    SameBut (ws.map (·.1)) m (m.saveAll ws) := by
  induction ws generalizing m with
  | nil => exact .refl m
  | cons w ws ih =>
    rw [saveAll]
    split
    · exact .refl m
    · have hfirst : SameBut ((w :: ws).map (·.1)) m (m.save w.1 w.2).1 :=
        (SameBut.save m w.1 w.2).mono (by simp)
      have hrest : SameBut ((w :: ws).map (·.1)) (m.save w.1 w.2).1
          ((m.save w.1 w.2).1.saveAll ws) := (ih _).mono (by simp)
      exact hfirst.trans hrest

theorem saveAll_append_of_refuses {m : Memory} {w : Path × List UInt8} (h : m.Refuses w.1)
    (ws ws' : List (Path × List UInt8)) : m.saveAll (ws ++ w :: ws') = m.saveAll ws := by
  induction ws generalizing m with
  | nil => simp only [List.nil_append, saveAll, if_pos h]
  | cons v ws ih =>
    rw [List.cons_append, saveAll, saveAll]
    have hstill : (m.save v.1 v.2).1.Refuses w.1 := ((SameBut.save m v.1 v.2).refuses_iff _).2 h
    rw [ih hstill]

end Memory

end LogDigest
