import LogDigest.Command.Arguments
import Mathlib.Algebra.Group.Nat.Defs
import Mathlib.Data.List.Nodup

/-!
# Accepted arguments

What arguments give the eight keys of a run is a table (`Options.Gives`): six options and two flags
belong to keys, and the number of workers is written anew from the number that was read.

**The invariant** (`Options.Sound`). While arguments are read, no option stands twice among those
taken, and the value of each is valid for it. Every way of taking an argument keeps this, so it
holds of all arguments that are accepted (`Options.sound_of_ofArguments`), and then the settings
that the arguments make are those of the table (`Options.Sound.get?_choices_eq_some_iff`).
-/

namespace LogDigest

open Text

/-! ## Choices by their keys -/

namespace Choices

theorem ext {c d : Choices} (h : ∀ key, c.get? key = d.get? key) : c = d := by
  obtain ⟨f⟩ := c
  obtain ⟨g⟩ := d
  exact congrArg Choices.mk (funext h)

theorem get?_setIf (c : Choices) (key : SettingKey) (value? : Option String) (k : SettingKey) :
    (c.setIf key value?).get? k = if k = key then value?.or (c.get? k) else c.get? k := by
  cases value? with
  | none => simp [setIf]
  | some value => simp [setIf, set]

end Choices

namespace Options

/-! ## What arguments give -/

/-- The arguments give a key a value. -/
inductive Gives (o : Options) : SettingKey → String → Prop
  | output {v : String} (h : (.output, v) ∈ o.values) : Gives o .outputPath v
  | level {v : String} (h : (.level, v) ∈ o.values) : Gives o .logLevel v
  | filter {v : String} (h : (.filter, v) ∈ o.values) : Gives o .filter v
  | mode {v : String} (h : (.mode, v) ∈ o.values) : Gives o .parseMode v
  | exportTo {v : String} (h : (.exportTo, v) ∈ o.values) : Gives o .exportPath v
  | jobs {v : String} {n : Nat} (h : (.jobs, v) ∈ o.values) (hn : natural? v.toList = some n) :
      Gives o .workerThreads (toString n)
  | strict (h : .strictLevels ∈ o.flags) : Gives o .levelPolicy "strict"
  | orOfAnds (h : .orOfAnds ∈ o.flags) : Gives o .connectives "or-of-ands"

/-! ## The invariant -/

/-- No option stands twice among those taken, and the value of each is valid for it. -/
structure Sound (o : Options) : Prop where
  once : (o.values.map Prod.fst).Nodup
  valid : ∀ p ∈ o.values, accepts p.1 p.2 = true

def LeavesSound (x : Except Usage Options) : Prop := ∀ o, x = .ok o → o.Sound

/-- If options and an open value are left, the options are sound. -/
def LeavesSoundOpen (x : Except Usage (Options × Pending)) : Prop :=
  ∀ o pending, x = .ok (o, pending) → o.Sound

theorem LeavesSound.map {x : Except Usage Options} (h : LeavesSound x) (pending : Pending) :
    LeavesSoundOpen (x.map fun o => (o, pending)) := by
  intro o p hx
  cases x with
  | error e => cases hx
  | ok o' =>
    cases hx
    exact h o rfl

theorem leavesSound_error (e : Usage) : LeavesSound (.error e) := nofun

theorem leavesSoundOpen_error (e : Usage) : LeavesSoundOpen (.error e) := nofun

theorem sound_empty : Sound {} where
  once := List.nodup_nil
  valid := nofun

namespace Sound

variable {o : Options}

theorem takeValue (h : o.Sound) (option : ValueOption) (value : String) :
    LeavesSound (o.takeValue option value) := by
  intro o' hx
  rw [Options.takeValue] at hx
  split at hx
  · cases hx
  · rename_i haccepts
    rw [Bool.not_eq_true, Bool.not_eq_false'] at haccepts
    split at hx
    · cases hx
    · rename_i hfresh
      cases hx
      have hnotMem : option ∉ o.values.map Prod.fst := by
        rw [Bool.not_eq_true, Option.isSome_eq_false_iff, Option.isNone_iff_eq_none, value?,
          List.lookup_eq_none_iff] at hfresh
        rintro hmem
        obtain ⟨p, hp, rfl⟩ := List.mem_map.1 hmem
        simpa using hfresh p hp
      constructor
      · rw [List.map_append, List.map_singleton, List.nodup_append_comm, List.singleton_append,
          List.nodup_cons]
        exact ⟨hnotMem, h.once⟩
      · intro p hp
        rcases List.mem_append.1 hp with hp | hp
        · exact h.valid p hp
        · rw [List.mem_singleton] at hp
          rw [hp]
          exact haccepts

/-- Flags are beside the options with values. -/
theorem takeFlag (h : o.Sound) (flag : Flag) : LeavesSound (o.takeFlag flag) := by
  intro o' hx
  cases flag with
  | help | version => cases hx
  | strictLevels | orOfAnds | debug =>
    rw [Options.takeFlag] at hx
    · split at hx <;> cases hx
      exact ⟨h.once, h.valid⟩
    · nofun
    · nofun

theorem takeInput (h : o.Sound) (path : String) : LeavesSound (o.takeInput path) := by
  intro o' hx
  rw [Options.takeInput] at hx
  split at hx
  · cases hx
  · split at hx
    · cases hx
    · cases hx
      exact ⟨h.once, h.valid⟩

theorem openValue (h : o.Sound) (pending : Pending) : LeavesSoundOpen (.ok (o, pending)) := by
  intro o' p hx
  cases hx
  exact h

theorem takeLong (h : o.Sound) (argument : List Char) : LeavesSoundOpen (o.takeLong argument) := by
  rw [Options.takeLong]
  dsimp only
  split
  · split
    · exact h.openValue _
    · exact (h.takeValue _ _).map none
  · split
    · exact leavesSoundOpen_error _
    · split
      · exact (h.takeFlag _).map none
      · exact leavesSoundOpen_error _

theorem takeShorts (h : o.Sound) (names : List Char) : LeavesSoundOpen (o.takeShorts names) := by
  induction names generalizing o with
  | nil =>
    rw [Options.takeShorts]
    exact h.openValue none
  | cons c rest ih =>
    rw [Options.takeShorts.eq_def]
    dsimp only
    split
    · split
      · exact h.openValue _
      · exact (h.takeValue _ _).map none
      · exact (h.takeValue _ _).map none
    · split
      · exact leavesSoundOpen_error _
      · split
        · rename_i o' hflag
          exact ih (h.takeFlag _ o' hflag)
        · exact leavesSoundOpen_error _

theorem take (h : o.Sound) (argument : String) : LeavesSoundOpen (o.take argument) := by
  rw [Options.take]
  split
  · exact h.takeLong _
  · exact h.takeShorts _
  · exact (h.takeInput _).map none

theorem takeInputs (h : o.Sound) (paths : List String) : LeavesSound (o.takeInputs paths) := by
  induction paths generalizing o with
  | nil =>
    rintro o' hx
    cases hx
    exact h
  | cons path paths ih =>
    rw [Options.takeInputs]
    split
    · rename_i o' hinput
      exact ih (h.takeInput path o' hinput)
    · exact leavesSound_error _

/-- Reading arguments keeps the invariant, whatever is open. -/
theorem takeAll (h : o.Sound) (pending : Pending) (arguments : List String) :
    LeavesSound (o.takeAll pending arguments) := by
  induction arguments generalizing o pending with
  | nil =>
    cases pending with
    | none =>
      rintro o' hx
      cases hx
      exact h
    | some option => exact leavesSound_error _
  | cons argument rest ih =>
    rw [Options.takeAll.eq_def]
    dsimp only
    split
    · split
      · split
        · rename_i o' hvalue
          exact ih (h.takeValue _ _ o' hvalue) none
        · exact leavesSound_error _
      · exact leavesSound_error _
    · split
      · exact h.takeInputs rest
      · split
        · rename_i o' pending' htake
          exact ih (h.take argument o' pending' htake) pending'
        · exact leavesSound_error _

end Sound

/-- **Accepted arguments are sound.** -/
theorem sound_of_ofArguments {arguments : List String} {o : Options}
    (h : ofArguments arguments = .ok o) : o.Sound := by
  rw [ofArguments] at h
  split at h
  · cases h
  · rename_i o' hall
    split at h
    · cases h
      exact sound_empty.takeAll none arguments o hall
    · cases h

/-! ## The settings of sound options -/

theorem lookup_eq_some_iff_mem {α β : Type} [DecidableEq α] {ps : List (α × β)} {a : α} {b : β}
    (h : (ps.map Prod.fst).Nodup) : ps.lookup a = some b ↔ (a, b) ∈ ps := by
  induction ps with
  | nil => simp
  | cons p ps ih =>
    obtain ⟨a', b'⟩ := p
    rw [List.map_cons, List.nodup_cons] at h
    obtain ⟨hnotMem, hnodup⟩ := h
    by_cases ha : a = a'
    · subst ha
      have htail : (a, b) ∉ ps := fun hmem => hnotMem (List.mem_map.2 ⟨(a, b), hmem, rfl⟩)
      simp [htail, eq_comm]
    · have hne : (a == a') = false := beq_eq_false_iff_ne.2 ha
      simp [List.lookup_cons, hne, ha, ih hnodup]

theorem get?_choices (o : Options) (key : SettingKey) : o.choices.get? key =
    match key with
    | .outputPath => o.value? .output
    | .logLevel => o.value? .level
    | .filter => o.value? .filter
    | .parseMode => o.value? .mode
    | .exportPath => o.value? .exportTo
    | .workerThreads => (o.value? .jobs).bind fun v => (natural? v.toList).map toString
    | .levelPolicy => if o.has .strictLevels then some "strict" else none
    | .connectives => if o.has .orOfAnds then some "or-of-ands" else none := by
  cases key <;> simp [choices, Choices.get?_setIf]

namespace Sound

variable {o : Options} {key : SettingKey} {value : String}

theorem value?_eq_some_iff (h : o.Sound) {option : ValueOption} :
    o.value? option = some value ↔ (option, value) ∈ o.values :=
  lookup_eq_some_iff_mem h.once

/-- The number of workers is read whenever it is given. -/
theorem exists_natural? (h : o.Sound) {v : String} (hv : (.jobs, v) ∈ o.values) :
    ∃ n, natural? v.toList = some n ∧ n < 2 ^ 64 := by
  have hvalid := h.valid _ hv
  obtain ⟨n, hn, hlt⟩ := (Option.any_eq_true _ _).1 hvalid
  exact ⟨n, hn, of_decide_eq_true hlt⟩

/-- **The settings that arguments make are those that they give.** -/
theorem get?_choices_eq_some_iff (h : o.Sound) :
    o.choices.get? key = some value ↔ o.Gives key value := by
  rw [get?_choices]
  constructor
  · intro hget
    cases key with
    | outputPath => exact .output (h.value?_eq_some_iff.1 hget)
    | logLevel => exact .level (h.value?_eq_some_iff.1 hget)
    | filter => exact .filter (h.value?_eq_some_iff.1 hget)
    | parseMode => exact .mode (h.value?_eq_some_iff.1 hget)
    | exportPath => exact .exportTo (h.value?_eq_some_iff.1 hget)
    | workerThreads =>
      obtain ⟨v, hv, hn⟩ := Option.bind_eq_some_iff.1 hget
      obtain ⟨n, hread, rfl⟩ := Option.map_eq_some_iff.1 hn
      exact .jobs (h.value?_eq_some_iff.1 hv) hread
    | levelPolicy =>
      obtain ⟨hhas, hvalue⟩ := Option.ite_none_right_eq_some.1 hget
      cases hvalue
      exact .strict (by simpa [has] using hhas)
    | connectives =>
      obtain ⟨hhas, hvalue⟩ := Option.ite_none_right_eq_some.1 hget
      cases hvalue
      exact .orOfAnds (by simpa [has] using hhas)
  · rintro (hv | hv | hv | hv | hv | ⟨hv, hn⟩ | hflag | hflag)
    · exact h.value?_eq_some_iff.2 hv
    · exact h.value?_eq_some_iff.2 hv
    · exact h.value?_eq_some_iff.2 hv
    · exact h.value?_eq_some_iff.2 hv
    · exact h.value?_eq_some_iff.2 hv
    · exact Option.bind_eq_some_iff.2 ⟨_, h.value?_eq_some_iff.2 hv, by rw [hn]; rfl⟩
    · exact if_pos (by simpa [has] using hflag)
    · exact if_pos (by simpa [has] using hflag)

end Sound

end Options

end LogDigest
