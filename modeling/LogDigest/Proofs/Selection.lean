import LogDigest.Filter.Selection
import Mathlib.Data.List.Basic

/-!
# What a selection keeps

A selection looks at one record after the other. `FilterSettings.chosen` says at once what comes
out. A filter text that does not compile is the error, whatever the records are. Otherwise, under
the strict policy, the first record whose level is unknown is the error. Otherwise those records are
kept that reach the threshold and that the filter admits, in their order.
-/

namespace LogDigest

namespace Threshold

/-- Whether the level of a record is known and at least the minimum. -/
def isReached (t : Threshold) (r : Record) : Bool :=
  r.severity?.any fun s => decide (t.minimum ≤ s)

/-- The first record whose level fails the selection. -/
def firstRefused? (t : Threshold) (records : List Record) : Option Record :=
  match t.policy with
  | .tolerant => none
  | .strict => records.find? fun r => r.severity?.isNone

theorem select_eq (t : Threshold) (records : List Record) :
    t.select records =
      match t.firstRefused? records with
      | some r => .error (.unknownLevel r.level r.id)
      | none => .ok (records.filter t.isReached) := by
  induction records with
  | nil =>
    rw [firstRefused?]
    cases t.policy <;> rfl
  | cons r rs ih =>
    rw [select, ih]
    cases hseverity : r.severity? with
    | some s =>
      have hadmits : t.admits r = .ok (t.isReached r) := by
        rw [admits, isReached, hseverity]
        rfl
      have hrefused : t.firstRefused? (r :: rs) = t.firstRefused? rs := by
        simp [firstRefused?, hseverity]
      rw [hadmits, hrefused, List.filter_cons]
      cases t.isReached r <;> cases t.firstRefused? rs <;> rfl
    | none =>
      have hreached : t.isReached r = false := by rw [isReached, hseverity, Option.any_none]
      rw [admits, hseverity, List.filter_cons, hreached]
      cases hpolicy : t.policy with
      | tolerant => simp [firstRefused?, hpolicy]
      | strict => simp [firstRefused?, hpolicy, hseverity]

end Threshold

/-- Asking a filter without criteria would drop nothing either. -/
theorem CompiledFilter.retain_eq_filter (f : CompiledFilter) (records : List Record) :
    f.retain records = records.filter fun r => f.admits r.toEntry := by
  unfold retain
  by_cases h : f.isAlways = true
  · rw [if_pos h, List.filter_eq_self.2]
    intro r _
    simp [admits, h]
  · rw [if_neg h]

namespace FilterSettings

/-- What a selection comes to. -/
def chosen (s : FilterSettings) (records : List Record) : Except FilterError (List Record) :=
  match CompiledFilter.ofText s.connectives s.criteria with
  | .error e => .error e
  | .ok f =>
    match s.threshold.firstRefused? records with
    | some r => .error (.unknownLevel r.level r.id)
    | none => .ok (records.filter fun r => s.threshold.isReached r && f.admits r.toEntry)

/-- **A selection keeps what it should**: going through the records comes to the description. -/
theorem apply_eq_chosen (s : FilterSettings) (records : List Record) :
    s.apply records = s.chosen records := by
  rw [apply, chosen]
  cases CompiledFilter.ofText s.connectives s.criteria with
  | error e => rfl
  | ok f =>
    dsimp only
    rw [Threshold.select_eq]
    cases s.threshold.firstRefused? records with
    | some r => rfl
    | none =>
      have hfilter : f.retain (records.filter s.threshold.isReached) =
          records.filter fun r => s.threshold.isReached r && f.admits r.toEntry := by
        rw [f.retain_eq_filter, List.filter_filter]
        exact List.filter_congr fun r _ => Bool.and_comm ..
      exact congrArg Except.ok hfilter

/-- Records that are kept are some of the given ones, in their order. -/
theorem sublist_of_apply {s : FilterSettings} {records kept : List Record}
    (h : s.apply records = .ok kept) : kept.Sublist records := by
  rw [apply_eq_chosen, chosen] at h
  split at h
  · cases h
  · split at h
    · cases h
    · cases h
      exact List.filter_sublist

end FilterSettings

end LogDigest
