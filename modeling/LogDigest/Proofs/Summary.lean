import LogDigest.Summary.Basic
import Mathlib.Data.List.Basic

/-!
# What a summary says

A summary is built record by record. `Summary.described` says at once what comes out: how many
records there are, every level that occurs with its count, in the order in which the levels came
first, and the least and the greatest timestamp.

**Counts** (`LevelCounts.foldl_bump_cons`). The entry at the head of the counts takes all
occurrences of its level, and the other levels are counted behind it as if it were not there. So the
counts of a list are those of its first level, followed by the counts of what is left without it.
-/

namespace LogDigest

/-! ## Counts of levels -/

namespace LevelCounts

theorem foldl_bump_cons (levels : List String) (l : String) (n : Nat)
    (rest : List (String × Nat)) :
    levels.foldl (fun counts x => bump x counts) ((l, n) :: rest) =
      (l, n + levels.count l) ::
        (levels.filter (!· == l)).foldl (fun counts x => bump x counts) rest := by
  induction levels generalizing n rest with
  | nil => rfl
  | cons x levels ih =>
    rw [List.foldl_cons, bump]
    by_cases hx : l = x
    · subst hx
      rw [if_pos rfl, ih, List.count_cons_self, List.filter_cons_of_neg (by simp)]
      simp only [Nat.add_assoc, Nat.add_comm 1]
    · have hne : ¬ x = l := fun h => hx h.symm
      rw [if_neg hx, ih, List.count_cons_of_ne hne, List.filter_cons_of_pos (by simp [hne]),
        List.foldl_cons]

/-- The counts of a list: every level that occurs, in the order of its first occurrence. -/
theorem foldl_bump : ∀ levels : List String,
    levels.foldl (fun counts x => bump x counts) [] =
      levels.eraseDups.map fun l => (l, levels.count l)
  | [] => rfl
  | l :: levels => by
    rw [List.foldl_cons, bump, foldl_bump_cons, foldl_bump (levels.filter (!· == l)),
      List.eraseDups_cons, List.map_cons, List.count_cons_self, Nat.add_comm 1]
    refine congrArg (_ :: ·) (List.map_congr_left fun x hx => ?_)
    have hkept : (!x == l) = true := (List.mem_filter.1 (List.mem_eraseDups.1 hx)).2
    have hne : l ≠ x := by
      rintro rfl
      simp at hkept
    rw [List.count_filter (p := fun y => !y == l) hkept, List.count_cons_of_ne hne]
termination_by levels => levels.length
decreasing_by
  have := List.length_filter_le (!· == l) levels
  rw [List.length_cons]
  omega

end LevelCounts

/-! ## Summaries -/

namespace Summary

def described (records : List Record) : Summary where
  total := records.length
  levels :=
    { entries := (records.map (·.level)).eraseDups.map fun l =>
        (l, (records.map (·.level)).count l) }
  range :=
    match (records.map (·.timestamp)).min?, (records.map (·.timestamp)).max? with
    | some earliest, some latest => some { earliest, latest }
    | _, _ => none

theorem foldl_add_total (s : Summary) (records : List Record) :
    (records.foldl add s).total = s.total + records.length := by
  induction records generalizing s with
  | nil => rfl
  | cons r rs ih =>
    rw [List.foldl_cons, ih, add, List.length_cons, Nat.add_assoc, Nat.add_comm 1]

theorem foldl_add_levels (s : Summary) (records : List Record) :
    (records.foldl add s).levels.entries =
      (records.map (·.level)).foldl (fun counts x => LevelCounts.bump x counts)
        s.levels.entries := by
  induction records generalizing s with
  | nil => rfl
  | cons r rs ih =>
    rw [List.foldl_cons, ih]
    rfl

theorem foldl_add_range {s : Summary} {range : TimeRange} (h : s.range = some range)
    (records : List Record) :
    (records.foldl add s).range =
      some { earliest := (records.map (·.timestamp)).foldl min range.earliest
             latest := (records.map (·.timestamp)).foldl max range.latest } := by
  induction records generalizing s range with
  | nil => exact h
  | cons r rs ih =>
    have hadd : (s.add r).range = some (range.widen r.timestamp) := by rw [add, h]
    rw [List.foldl_cons, ih hadd]
    rfl

/-- **A summary says what it should**: building it record by record comes to its description. -/
theorem ofRecords_eq_described (records : List Record) : ofRecords records = described records := by
  have htotal := foldl_add_total {} records
  have hlevels := foldl_add_levels {} records
  rw [LevelCounts.foldl_bump] at hlevels
  have hrange : (records.foldl add {}).range = (described records).range := by
    cases records with
    | nil => rfl
    | cons r rs =>
      have hadd : (add {} r).range = some { earliest := r.timestamp, latest := r.timestamp } := rfl
      exact foldl_add_range hadd rs
  rw [ofRecords]
  rcases hs : records.foldl add {} with ⟨total, ⟨entries⟩, range⟩
  rw [hs] at htotal hlevels hrange
  simp only [Nat.zero_add] at htotal hlevels hrange
  rw [htotal, hlevels, hrange]
  rfl

end Summary

end LogDigest
