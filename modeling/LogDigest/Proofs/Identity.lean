import LogDigest.Line.Shape
import LogDigest.Record.Document
import Mathlib.Algebra.Group.Nat.Defs

/-!
# Identities are not used again

A fresh identity differs from every identity that was assigned before, as long as the numbers
suffice (`Process.fresh_not_reused`).

**Turns.** A construction of a record asks the counter once or not at all, for the next number or to
adopt one (`Process.step_cases`). Each request is one atomic step on one word, and all else that a
construction does concerns its own thread only. So whatever the threads do at the same time, they
take turns at the counter, and a run is a list of turns.

**Reach.** A counter without an end would stand beyond all identities assigned so far (`reach`). The
counter of 64 bits stands there as well if the number fits, and so the next number is larger than
all before (`Process.Sound`).

**Room.** The numbers suffice if above every adopted one there is one for each fresh identity
assigned later (`reach_le`). Without that room the counter stays at the largest number, which is
then handed out again (`Process.fresh_reused_at_end`), and behind it starts from zero.
-/

namespace LogDigest

/-! ## Constructions -/

/-- The ways in which a record comes to be. -/
inductive Construction where
  /-- An entry is given an identity. -/
  | build (e : Entry)
  /-- A document is read, whatever identity it names. -/
  | ofJson (text : String)
  /-- A document is read and keeps the identity that it names. -/
  | ofJsonKeepingId (text : String)
  /-- A line is read by a parser. -/
  | ofLine (parser : List Char → Option Entry) (line : List Char)

/-- An identity, and whether it was fresh or adopted when it was assigned. -/
structure Assignment where
  id : RecordId
  fresh : Bool
deriving DecidableEq, Repr

namespace Construction

/-- Constructs the record, unless its text cannot be read. -/
def perform (c : IdCounter) : Construction → Option Record × IdCounter
  | build e =>
    let (r, c) := c.mint e
    (some r, c)
  | ofJson text =>
    match Record.ofJson text c with
    | .ok (r, c) => (some r, c)
    | .error _ => (none, c)
  | ofJsonKeepingId text =>
    match Record.ofJsonKeepingId text c with
    | .ok (r, c) => (some r, c)
    | .error _ => (none, c)
  | ofLine parser line =>
    match parser line with
    | some e =>
      let (r, c) := c.mint e
      (some r, c)
    | none => (none, c)

/-- Whether the record has an identity of its own, not one that its document names. -/
def takesFresh : Construction → Bool
  | ofJsonKeepingId text =>
    match Record.readDocument text with
    | .ok (_, some _) => false
    | _ => true
  | _ => true

def assignment? (k : Construction) (c : IdCounter) : Option Assignment :=
  (k.perform c).1.map fun r => { id := r.id, fresh := k.takesFresh }

end Construction

/-! ## Processes -/

/-- The state of a process. -/
structure Process where
  ids : IdCounter := {}
  /-- What every thread has still to construct. -/
  threads : List (List Construction)
  /-- The identities assigned so far, in their order. -/
  assigned : List Assignment := []

namespace Process

/-- The turn of a thread: it constructs its next record. -/
def step (p : Process) (thread : Nat) : Process :=
  match p.threads[thread]? with
  | some (k :: ks) =>
    { ids := (k.perform p.ids).2
      threads := p.threads.set thread ks
      assigned := p.assigned ++ (k.assignment? p.ids).toList }
  | _ => p

/-- The threads take turns. -/
def run (p : Process) (turns : List Nat) : Process := turns.foldl step p

/-- What a turn does to the counter and to the identities: nothing, or a fresh identity is assigned,
or one is adopted. -/
theorem step_cases (p : Process) (thread : Nat) :
    ((p.step thread).ids = p.ids ∧ (p.step thread).assigned = p.assigned) ∨
    ((p.step thread).ids = p.ids.fresh.2 ∧
      (p.step thread).assigned = p.assigned ++ [{ id := p.ids.fresh.1, fresh := true }]) ∨
    ∃ n, (p.step thread).ids = (p.ids.adopt n).2 ∧
      (p.step thread).assigned = p.assigned ++ [{ id := ⟨n⟩, fresh := false }] := by
  unfold step
  split
  · rename_i k ks _
    cases k with
    | build e => exact Or.inr (Or.inl ⟨rfl, rfl⟩)
    | ofJson text =>
      simp only [Construction.assignment?, Construction.perform, Construction.takesFresh,
        Record.ofJson]
      cases Record.readDocument text with
      | error e => exact Or.inl ⟨rfl, List.append_nil _⟩
      | ok read => exact Or.inr (Or.inl ⟨rfl, rfl⟩)
    | ofJsonKeepingId text =>
      simp only [Construction.assignment?, Construction.perform, Construction.takesFresh,
        Record.ofJsonKeepingId]
      cases Record.readDocument text with
      | error e => exact Or.inl ⟨rfl, List.append_nil _⟩
      | ok read =>
        obtain ⟨e, id⟩ := read
        cases id with
        | none => exact Or.inr (Or.inl ⟨rfl, rfl⟩)
        | some n => exact Or.inr (Or.inr ⟨n, rfl, rfl⟩)
    | ofLine parser line =>
      simp only [Construction.assignment?, Construction.perform, Construction.takesFresh]
      cases parser line with
      | none => exact Or.inl ⟨rfl, List.append_nil _⟩
      | some e => exact Or.inr (Or.inl ⟨rfl, rfl⟩)
  · exact Or.inl ⟨rfl, rfl⟩

end Process

/-! ## Reach -/

/-- An assignment moves a counter without an end on. -/
def advance (n : Nat) (a : Assignment) : Nat :=
  if a.fresh then n + 1 else max n (a.id.value.toNat + 1)

/-- Where a counter without an end stands after these assignments. -/
def reach (as : List Assignment) : Nat := as.foldl advance 1

theorem reach_concat (as : List Assignment) (a : Assignment) :
    reach (as ++ [a]) = advance (reach as) a := by
  rw [reach, List.foldl_append, List.foldl_cons, List.foldl_nil, reach]

/-- How many identities are fresh. -/
def freshCount (as : List Assignment) : Nat := as.countP (·.fresh)

theorem freshCount_cons (a : Assignment) (as : List Assignment) :
    freshCount (a :: as) = freshCount as + if a.fresh then 1 else 0 := by
  rw [freshCount, List.countP_cons, freshCount]

/-- Above every adopted identity there is a number for each fresh identity assigned later. -/
def LeavesRoom : List Assignment → Prop
  | [] => True
  | a :: later =>
    (a.fresh = false → a.id.value.toNat + freshCount later < 2 ^ 64) ∧ LeavesRoom later

instance decidableLeavesRoom : (as : List Assignment) → Decidable (LeavesRoom as)
  | [] => isTrue trivial
  | a :: later =>
    have := decidableLeavesRoom later
    inferInstanceAs (Decidable ((a.fresh = false → _ < _) ∧ LeavesRoom later))

/-- With room above the adopted identities a counter without an end stays within 64 bits. -/
theorem foldl_advance_le {as : List Assignment} {n : Nat} (hroom : LeavesRoom as)
    (hn : n + freshCount as ≤ 2 ^ 64) : as.foldl advance n ≤ 2 ^ 64 := by
  induction as generalizing n with
  | nil => exact hn
  | cons a later ih =>
    obtain ⟨ha, hlater⟩ := hroom
    rw [List.foldl_cons]
    apply ih hlater
    rw [freshCount_cons] at hn
    cases hfresh : a.fresh with
    | true =>
      rw [hfresh, if_pos rfl] at hn
      rw [advance, if_pos hfresh]
      omega
    | false =>
      have habove := ha hfresh
      rw [advance, if_neg (by simp [hfresh])]
      omega

theorem reach_le {as : List Assignment} (hroom : LeavesRoom as) (hfew : freshCount as < 2 ^ 64) :
    reach as ≤ 2 ^ 64 :=
  foldl_advance_le hroom (by omega)

/-! ## The counter -/

namespace IdCounter

theorem toNat_next_fresh {c : IdCounter} (h : c.next.toNat + 1 < 2 ^ 64) :
    c.fresh.2.next.toNat = c.next.toNat + 1 := by
  have hone : (1 : UInt64).toNat = 1 := rfl
  rw [fresh, UInt64.toNat_add, hone, Nat.mod_eq_of_lt h]

theorem toNat_next_adopt {c : IdCounter} {n : UInt64} (h : n.toNat + 1 < 2 ^ 64) :
    (c.adopt n).2.next.toNat = max c.next.toNat (n.toNat + 1) := by
  have hone : (1 : UInt64).toNat = 1 := rfl
  have hne : n ≠ 18446744073709551615 := by
    rintro rfl
    exact absurd h (by decide)
  have hbeyond : (n + 1).toNat = n.toNat + 1 := by
    rw [UInt64.toNat_add, hone, Nat.mod_eq_of_lt h]
  simp only [adopt, if_neg hne]
  split
  · rename_i hlt
    rw [UInt64.lt_iff_toNat_lt, hbeyond] at hlt
    rw [hbeyond, Nat.max_eq_right (Nat.le_of_lt hlt)]
  · rename_i hge
    rw [UInt64.lt_iff_toNat_lt, hbeyond] at hge
    rw [Nat.max_eq_left (by omega)]

end IdCounter

/-! ## Runs -/

namespace Process

/-- A fresh identity is larger than those assigned before. -/
def Ascends (as : List Assignment) : Prop :=
  as.Pairwise fun earlier later =>
    later.fresh = true → earlier.id.value.toNat < later.id.value.toNat

/-- What holds of every process, whatever was adopted. -/
structure Sound (p : Process) : Prop where
  tracks : reach p.assigned < 2 ^ 64 → p.ids.next.toNat = reach p.assigned
  below : ∀ a ∈ p.assigned, a.id.value.toNat < reach p.assigned
  ascends : reach p.assigned ≤ 2 ^ 64 → Ascends p.assigned

theorem sound_initial (threads : List (List Construction)) : Sound { threads } where
  tracks _ := rfl
  below := nofun
  ascends _ := List.Pairwise.nil

variable {p q : Process}

theorem Sound.fresh (h : Sound p) (hids : q.ids = p.ids.fresh.2)
    (hassigned : q.assigned = p.assigned ++ [{ id := p.ids.fresh.1, fresh := true }]) :
    Sound q := by
  have hnext : p.ids.fresh.1.value.toNat = p.ids.next.toNat := rfl
  have hreach : reach q.assigned = reach p.assigned + 1 := by
    rw [hassigned, reach_concat, advance, if_pos rfl]
  refine ⟨fun hfits => ?_, fun a ha => ?_, fun hfits => ?_⟩
  · rw [hreach] at hfits ⊢
    have htracks := h.tracks (by omega)
    rw [hids, IdCounter.toNat_next_fresh (by omega), htracks]
  · rw [hassigned, List.mem_append, List.mem_singleton] at ha
    rw [hreach]
    rcases ha with ha | rfl
    · have hbelow := h.below a ha
      omega
    · have hword := p.ids.next.toNat_lt
      have htracks := h.tracks
      rw [hnext]
      omega
  · rw [hreach] at hfits
    rw [hassigned]
    refine List.pairwise_append.2 ⟨h.ascends (by omega), List.pairwise_singleton _ _, ?_⟩
    intro a ha b hb _
    rw [List.mem_singleton] at hb
    subst hb
    rw [hnext, h.tracks (by omega)]
    exact h.below a ha

theorem Sound.adopt (h : Sound p) {n : UInt64} (hids : q.ids = (p.ids.adopt n).2)
    (hassigned : q.assigned = p.assigned ++ [{ id := ⟨n⟩, fresh := false }]) : Sound q := by
  have hreach : reach q.assigned = max (reach p.assigned) (n.toNat + 1) := by
    rw [hassigned, reach_concat]
    rfl
  refine ⟨fun hfits => ?_, fun a ha => ?_, fun hfits => ?_⟩
  · rw [hreach] at hfits ⊢
    rw [hids, IdCounter.toNat_next_adopt (by omega), h.tracks (by omega)]
  · rw [hassigned, List.mem_append, List.mem_singleton] at ha
    rw [hreach]
    rcases ha with ha | rfl
    · have hbelow := h.below a ha
      omega
    · show n.toNat < _
      omega
  · rw [hreach] at hfits
    rw [hassigned]
    refine List.pairwise_append.2 ⟨h.ascends (by omega), List.pairwise_singleton _ _, ?_⟩
    intro a _ b hb hfresh
    rw [List.mem_singleton] at hb
    subst hb
    cases hfresh

theorem Sound.step (h : Sound p) (thread : Nat) : Sound (p.step thread) := by
  rcases p.step_cases thread with ⟨hids, hassigned⟩ | ⟨hids, hassigned⟩ | ⟨n, hids, hassigned⟩
  · obtain ⟨htracks, hbelow, hascends⟩ := h
    constructor <;> rw [hassigned]
    · rw [hids]
      exact htracks
    · exact hbelow
    · exact hascends
  · exact h.fresh hids hassigned
  · exact h.adopt hids hassigned

theorem Sound.run (h : Sound p) (turns : List Nat) : Sound (p.run turns) := by
  induction turns generalizing p with
  | nil => exact h
  | cons thread turns ih => exact ih (h.step thread)

/-- **A fresh identity is none that was assigned before.** Whatever threads construct, and in
whatever order they take turns, as long as above every adopted identity there is a number for each
fresh identity assigned later. -/
theorem fresh_not_reused (threads : List (List Construction)) (turns : List Nat)
    (hfew : freshCount (Process.run { threads } turns).assigned < 2 ^ 63)
    (hroom : LeavesRoom (Process.run { threads } turns).assigned) :
    (Process.run { threads } turns).assigned.Pairwise fun earlier later =>
      later.fresh = true → later.id ≠ earlier.id := by
  have hsound := (sound_initial threads).run turns
  have hascends := hsound.ascends (reach_le hroom (by omega))
  refine hascends.imp fun {earlier later} hlt hfresh heq => ?_
  rw [heq] at hlt
  exact Nat.lt_irrefl _ (hlt hfresh)

/-- A document of an entry with this identity. -/
def documentText (id : String) : String :=
  "\x7b\"id\":" ++ id ++ ",\"timestamp\":\"2024-01-01T10:00:00\",\"level\":\"Info\"\x7d"

/-- Two threads: one reads two lines, the other keeps an identity that lies ahead. -/
theorem fresh_not_reused_twoThreads :
    let line : Construction := .ofLine LineShape.plain.read? "2024-01-01 10:00:00 Info up".toList
    let threads := [[line, line], [.ofJsonKeepingId (documentText "18446744073709551614")]]
    let p := Process.run { threads } [0, 1, 0]
    p.assigned =
        [{ id := ⟨1⟩, fresh := true }, { id := ⟨18446744073709551614⟩, fresh := false },
         { id := ⟨18446744073709551615⟩, fresh := true }] ∧
      p.assigned.Pairwise fun earlier later => later.fresh = true → later.id ≠ earlier.id := by
  intro line threads p
  have hassigned : p.assigned =
      [{ id := ⟨1⟩, fresh := true }, { id := ⟨18446744073709551614⟩, fresh := false },
       { id := ⟨18446744073709551615⟩, fresh := true }] := by
    decide +kernel
  refine ⟨hassigned, fresh_not_reused threads [0, 1, 0] ?_ ?_⟩
  · show freshCount p.assigned < _
    rw [hassigned]
    decide
  · show LeavesRoom p.assigned
    rw [hassigned]
    decide

/-- After the largest number was adopted the next record has it again. -/
theorem fresh_reused_at_end :
    let keeping : Construction := .ofJsonKeepingId (documentText "18446744073709551615")
    let line : Construction := .ofLine LineShape.plain.read? "2024-01-01 10:00:00 Info up".toList
    let p := Process.run { threads := [[keeping, line]] } [0, 0]
    p.assigned =
        [{ id := ⟨18446744073709551615⟩, fresh := false },
         { id := ⟨18446744073709551615⟩, fresh := true }] ∧
      freshCount p.assigned < 2 ^ 63 ∧
      ¬ p.assigned.Pairwise fun earlier later => later.fresh = true → later.id ≠ earlier.id := by
  decide +kernel

end Process

end LogDigest
