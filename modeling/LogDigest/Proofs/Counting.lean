import LogDigest.Proofs.Chronology
import LogDigest.Summary.Basic
import LogDigest.Summary.IndexedCounts
import Mathlib.Algebra.GroupWithZero.Nat
import Mathlib.Data.List.Basic
import Mathlib.Data.List.Induction
import Std.Data.HashMap.Lemmas

/-!
# Summaries count, whatever the order

A summary has the number of its records, the number of occurrences of every level, and the first and
the last timestamp, and except for the order in which levels came first it is the same for the
records in any order (`Summary.ofRecords_counts`).

**Counting** (`LevelCounts.bump_cases`). One more occurrence either adds one to the only count of
its level, or appends a count of one. Everything that is known of counts is kept by both: what they
say of the levels so far (`LevelCounts.Tallies`), and that an index leads from every level to its
count (`IndexedCounts.Tracks`).

**Time** (`TimeRange.Spans`). The range of some timestamps is determined by the set of them, since
timestamps are linearly ordered.
-/

namespace LogDigest

/-! ## One more occurrence -/

namespace LevelCounts

def names (c : LevelCounts) : List String := c.entries.map Prod.fst

/-- One more occurrence of a level is one more in its first count, or a count of its own. -/
theorem bump_cases (l : String) (entries : List (String × Nat)) :
    (l ∉ entries.map Prod.fst ∧ bump l entries = entries ++ [(l, 1)]) ∨
      ∃ before n behind, entries = before ++ (l, n) :: behind ∧ l ∉ before.map Prod.fst ∧
        bump l entries = before ++ (l, n + 1) :: behind := by
  induction entries with
  | nil => exact Or.inl ⟨List.not_mem_nil, rfl⟩
  | cons entry entries ih =>
    obtain ⟨m, k⟩ := entry
    rw [bump]
    by_cases hm : m = l
    · subst hm
      rw [if_pos rfl]
      exact Or.inr ⟨[], k, entries, rfl, List.not_mem_nil, rfl⟩
    · have hl : l ≠ m := fun h => hm h.symm
      rw [if_neg hm]
      rcases ih with ⟨hnot, hbump⟩ | ⟨before, n, behind, rfl, hnot, hbump⟩
      · refine Or.inl ⟨?_, by rw [hbump, List.cons_append]⟩
        exact List.not_mem_cons_of_ne_of_not_mem hl hnot
      · refine Or.inr ⟨(m, k) :: before, n, behind, rfl, ?_, by rw [hbump, List.cons_append]⟩
        exact List.not_mem_cons_of_ne_of_not_mem hl hnot

theorem increment_cases (c : LevelCounts) (l : String) :
    (l ∉ c.names ∧ (c.increment l).entries = c.entries ++ [(l, 1)]) ∨
      ∃ before n behind, c.entries = before ++ (l, n) :: behind ∧ l ∉ before.map Prod.fst ∧
        (c.increment l).entries = before ++ (l, n + 1) :: behind :=
  bump_cases l c.entries

theorem names_increment_of_mem {c : LevelCounts} {l : String} (h : l ∈ c.names) :
    (c.increment l).names = c.names := by
  rcases c.increment_cases l with ⟨hnot, -⟩ | ⟨before, n, behind, hentries, -, hmore⟩
  · exact absurd h hnot
  · rw [names, names, hmore, hentries]
    simp only [List.map_append, List.map_cons]

theorem names_increment_of_notMem {c : LevelCounts} {l : String} (h : l ∉ c.names) :
    (c.increment l).names = c.names ++ [l] := by
  rcases c.increment_cases l with ⟨-, hmore⟩ | ⟨before, n, behind, hentries, -, -⟩
  · rw [names, names, hmore, List.map_append, List.map_singleton]
  · refine absurd ?_ h
    rw [names, hentries]
    simp

/-- The count of a level is zero, or stands in its first entry. -/
theorem get_eq_of_entries {c : LevelCounts} {before behind : List (String × Nat)} {l : String}
    {n : Nat} (h : c.entries = before ++ (l, n) :: behind) (hbefore : l ∉ before.map Prod.fst) :
    c.get l = n := by
  have hnone : before.lookup l = none := by
    rw [List.lookup_eq_none_iff]
    intro p hp
    have hne : l ≠ p.1 := fun heq => hbefore (heq ▸ List.mem_map_of_mem hp)
    simpa using hne
  rw [get, h, List.lookup_append, hnone, Option.none_or, List.lookup_cons_self]
  rfl

theorem get_eq_zero {c : LevelCounts} {l : String} (h : l ∉ c.names) : c.get l = 0 := by
  have hnone : c.entries.lookup l = none := by
    rw [List.lookup_eq_none_iff]
    intro p hp
    have hne : l ≠ p.1 := fun heq => h (heq ▸ List.mem_map_of_mem hp)
    simpa using hne
  rw [get, hnone]
  rfl

theorem get_increment (c : LevelCounts) (l m : String) :
    (c.increment l).get m = c.get m + if m = l then 1 else 0 := by
  by_cases hm : m = l
  · subst hm
    rw [if_pos rfl]
    rcases c.increment_cases m with ⟨hnot, hmore⟩ | ⟨before, n, behind, hentries, hnot, hmore⟩
    · rw [get_eq_zero hnot, get_eq_of_entries hmore hnot]
    · rw [get_eq_of_entries hentries hnot, get_eq_of_entries hmore hnot]
  · have hskip : ∀ (n : Nat) behind, List.lookup m ((l, n) :: behind) = behind.lookup m := by
      intro n behind
      rw [List.lookup_cons, beq_false_of_ne hm]
    rw [if_neg hm, Nat.add_zero, get, get]
    rcases c.increment_cases l with ⟨-, hmore⟩ | ⟨before, n, behind, hentries, -, hmore⟩
    · rw [hmore, List.lookup_append, hskip, List.lookup_nil, Option.or_none]
    · rw [hmore, hentries, List.lookup_append, List.lookup_append, hskip, hskip]

/-- The number of all occurrences that were counted. -/
def sum (c : LevelCounts) : Nat := (c.entries.map Prod.snd).sum

theorem sum_increment (c : LevelCounts) (l : String) : (c.increment l).sum = c.sum + 1 := by
  rw [sum, sum]
  rcases c.increment_cases l with ⟨-, hmore⟩ | ⟨before, n, behind, hentries, -, hmore⟩
  · rw [hmore, List.map_append, List.sum_append, List.map_singleton, List.sum_singleton]
  · rw [hmore, hentries]
    simp only [List.map_append, List.map_cons, List.sum_append, List.sum_cons]
    omega

/-! ## Counts of a list -/

/-- The counts say of every level how often it is among these, in the order in which they came
first. -/
structure Tallies (c : LevelCounts) (levels : List String) : Prop where
  distinct : c.names.Nodup
  mem_iff : ∀ l, l ∈ c.names ↔ l ∈ levels
  inOrder : c.names.Pairwise fun l m => levels.idxOf l < levels.idxOf m
  get : ∀ l, c.get l = levels.count l
  sum : c.sum = levels.length

theorem tallies_nil : Tallies {} [] where
  distinct := List.nodup_nil
  mem_iff _ := Iff.rfl
  inOrder := List.Pairwise.nil
  get _ := rfl
  sum := rfl

theorem Tallies.increment {c : LevelCounts} {levels : List String} (h : c.Tallies levels)
    (l : String) : (c.increment l).Tallies (levels ++ [l]) := by
  -- Where a level came first stays where it was.
  have hfirst : ∀ {m}, m ∈ levels → (levels ++ [l]).idxOf m = levels.idxOf m :=
    fun hm => List.idxOf_append_of_mem hm
  have hinOrder : c.names.Pairwise fun m k => (levels ++ [l]).idxOf m < (levels ++ [l]).idxOf k :=
    h.inOrder.imp_of_mem fun hm hk hlt => by
      rwa [hfirst ((h.mem_iff _).1 hm), hfirst ((h.mem_iff _).1 hk)]
  have hget : ∀ m, (c.increment l).get m = (levels ++ [l]).count m := by
    intro m
    rw [get_increment, h.get, List.count_append, List.count_singleton]
    simp only [beq_iff_eq, eq_comm (a := m)]
  have hsum : (c.increment l).sum = (levels ++ [l]).length := by
    rw [sum_increment, h.sum, List.length_append, List.length_singleton]
  by_cases hl : l ∈ c.names
  · have hnames := names_increment_of_mem hl
    refine ⟨hnames ▸ h.distinct, fun m => ?_, hnames ▸ hinOrder, hget, hsum⟩
    rw [hnames, h.mem_iff, List.mem_append, List.mem_singleton]
    refine ⟨Or.inl, fun hm => hm.elim id ?_⟩
    rintro rfl
    exact (h.mem_iff m).1 hl
  · have hnames := names_increment_of_notMem hl
    have hnew : l ∉ levels := fun hmem => hl ((h.mem_iff l).2 hmem)
    refine ⟨?_, fun m => ?_, ?_, hget, hsum⟩
    · rw [hnames]
      refine List.nodup_append.2 ⟨h.distinct, List.pairwise_singleton _ l, fun m hm k hk heq => ?_⟩
      rw [List.mem_singleton] at hk
      exact hl (hk ▸ heq ▸ hm)
    · rw [hnames, List.mem_append, List.mem_append, h.mem_iff]
    · rw [hnames]
      refine List.pairwise_append.2 ⟨hinOrder, List.pairwise_singleton _ l, fun m hm k hk => ?_⟩
      rw [List.mem_singleton] at hk
      subst hk
      have hmem := (h.mem_iff m).1 hm
      rw [hfirst hmem, List.idxOf_append_of_notMem hnew, List.idxOf_cons_self]
      exact List.idxOf_lt_length_of_mem hmem

/-- Behind the levels that were counted before stand those that are new. -/
theorem names_foldl (c : LevelCounts) (levels : List String) :
    (levels.foldl increment c).names =
      c.names ++ (levels.foldl increment {}).names.filter (· ∉ c.names) := by
  induction levels using List.reverseRecOn with
  | nil => exact (List.append_nil _).symm
  | append_singleton levels l ih =>
    rw [List.foldl_concat, List.foldl_concat]
    set all := levels.foldl increment c
    set own := levels.foldl increment {}
    have hall : l ∈ all.names ↔ l ∈ c.names ∨ l ∈ own.names ∧ l ∉ c.names := by
      rw [ih, List.mem_append, List.mem_filter, decide_eq_true_iff]
    by_cases hc : l ∈ c.names
    · rw [names_increment_of_mem (hall.2 (Or.inl hc)), ih]
      by_cases hown : l ∈ own.names
      · rw [names_increment_of_mem hown]
      · rw [names_increment_of_notMem hown, List.filter_append,
          List.filter_cons_of_neg (by simpa using hc), List.filter_nil, List.append_nil]
    · by_cases hown : l ∈ own.names
      · rw [names_increment_of_mem (hall.2 (Or.inr ⟨hown, hc⟩)), names_increment_of_mem hown, ih]
      · have hnew : l ∉ all.names := fun h => (hall.1 h).elim hc fun h => hown h.1
        rw [names_increment_of_notMem hnew, names_increment_of_notMem hown, ih,
          List.filter_append, List.append_assoc, List.filter_cons_of_pos (by simpa using hc),
          List.filter_nil]

/-- Every entry holds the number of occurrences of its level. -/
theorem Tallies.eq_count {c : LevelCounts} {levels : List String} (h : c.Tallies levels)
    {l : String} {n : Nat} (hentry : (l, n) ∈ c.entries) : n = levels.count l ∧ 1 ≤ n := by
  obtain ⟨before, behind, hentries⟩ := List.append_of_mem hentry
  have hbefore : l ∉ before.map Prod.fst := by
    have hdistinct := h.distinct
    rw [names, hentries, List.map_append, List.map_cons] at hdistinct
    intro hmem
    exact (List.nodup_append.1 hdistinct).2.2 l hmem l List.mem_cons_self rfl
  have hcount : n = levels.count l := by rw [← h.get, get_eq_of_entries hentries hbefore]
  have hmem : l ∈ levels := (h.mem_iff l).1 (List.mem_map_of_mem hentry)
  exact ⟨hcount, hcount ▸ List.one_le_count_iff.2 hmem⟩

end LevelCounts

/-! ## Counting with an index -/

namespace IndexedCounts

/-- The counts are these, and the index leads from every level to its first count. -/
structure Tracks (c : IndexedCounts) (d : LevelCounts) : Prop where
  entries : c.entries.toList = d.entries
  index : ∀ l, c.index[l]? = d.names.idxOf? l

theorem tracks_empty : Tracks {} {} where
  entries := rfl
  index l := by simp [LevelCounts.names]

/-- Where the first count of a level stands. -/
theorem idxOf?_of_entries {d : LevelCounts} {before behind : List (String × Nat)} {l : String}
    {n : Nat} (h : d.entries = before ++ (l, n) :: behind) (hbefore : l ∉ before.map Prod.fst) :
    d.names.idxOf? l = some before.length := by
  have hnames : d.names = before.map Prod.fst ++ l :: behind.map Prod.fst := by
    rw [LevelCounts.names, h, List.map_append, List.map_cons]
  rw [List.idxOf?_eq_some_iff]
  simp only [hnames]
  refine ⟨by simp, by simp, fun j hj heq => hbefore ?_⟩
  rw [List.getElem_append_left (by simpa using hj)] at heq
  exact heq ▸ List.getElem_mem _

variable {c : IndexedCounts} {d : LevelCounts}

/-- What stands where the index leads to. -/
theorem Tracks.place (h : c.Tracks d) {before behind : List (String × Nat)} {l : String} {n : Nat}
    (hentries : d.entries = before ++ (l, n) :: behind) :
    c.entries[before.length]? = some (l, n) := by
  rw [← Array.getElem?_toList, h.entries, hentries, List.getElem?_append_right (Nat.le_refl _),
    Nat.sub_self, List.getElem?_cons_zero]

theorem Tracks.get?_eq (h : c.Tracks d) (l : String) : c.get? l = some (d.get l) := by
  rw [get?, h.index]
  rcases d.increment_cases l with ⟨hnot, -⟩ | ⟨before, n, behind, hentries, hnot, -⟩
  · rw [List.idxOf?_eq_none_iff.2 hnot, LevelCounts.get_eq_zero hnot]
  · rw [idxOf?_of_entries hentries hnot, LevelCounts.get_eq_of_entries hentries hnot]
    dsimp only
    rw [h.place hentries, Option.map_some]

/-- One more occurrence can always be counted. -/
theorem Tracks.increment (h : c.Tracks d) (l : String) :
    ∃ c', c.increment? l = some c' ∧ c'.Tracks (d.increment l) := by
  rw [increment?, h.index]
  rcases d.increment_cases l with ⟨hnot, hmore⟩ | ⟨before, n, behind, hentries, hnot, hmore⟩
  · rw [List.idxOf?_eq_none_iff.2 hnot]
    refine ⟨_, rfl, by rw [hmore, Array.toList_push, h.entries], fun m => ?_⟩
    have hsize : c.entries.size = d.entries.length := by rw [← h.entries, Array.length_toList]
    rw [Std.HashMap.getElem?_insert, h.index]
    by_cases hm : l = m
    · subst hm
      rw [if_pos (beq_self_eq_true l), idxOf?_of_entries hmore hnot, hsize]
    · have hne : (l == m) = false := beq_false_of_ne hm
      rw [hne, if_neg Bool.false_ne_true, LevelCounts.names_increment_of_notMem hnot]
      simp only [List.idxOf?, List.findIdx?_append, List.findIdx?_singleton, hne,
        Bool.false_eq_true, if_false, Option.map_none, Option.or_none]
  · rw [idxOf?_of_entries hentries hnot]
    dsimp only
    rw [h.place hentries, Option.map_some]
    refine ⟨_, rfl, ?_, fun m => ?_⟩
    · rw [hmore, Array.toList_setIfInBounds, h.entries, hentries,
        List.set_append_right _ _ (Nat.le_refl _), Nat.sub_self, List.set_cons_zero]
    · have hl : l ∈ d.names := by
        rw [LevelCounts.names, hentries]
        simp
      rw [LevelCounts.names_increment_of_mem hl]
      exact h.index m

/-- Levels can always be counted, with the same counts. -/
theorem Tracks.foldlM (h : c.Tracks d) (levels : List String) :
    ∃ c', levels.foldlM increment? c = some c' ∧
      c'.Tracks (levels.foldl LevelCounts.increment d) := by
  induction levels generalizing c d with
  | nil => exact ⟨c, rfl, h⟩
  | cons l levels ih =>
    obtain ⟨c', hc', htracks⟩ := h.increment l
    obtain ⟨c'', hc'', hall⟩ := ih htracks
    exact ⟨c'', by rw [List.foldlM_cons, hc', Option.bind_eq_bind, Option.bind_some, hc''], hall⟩

end IndexedCounts

/-! ## Ranges of time -/

namespace TimeRange

/-- The range is from the first to the last of these timestamps. -/
structure Spans (range : TimeRange) (ts : List Timestamp) : Prop where
  earliest_mem : range.earliest ∈ ts
  earliest_le : ∀ t ∈ ts, range.earliest ≤ t
  latest_mem : range.latest ∈ ts
  le_latest : ∀ t ∈ ts, t ≤ range.latest

/-- Timestamps have one range, and only which timestamps there are decides it. -/
theorem Spans.eq_of_mem_iff {a b : TimeRange} {ts us : List Timestamp} (ha : a.Spans ts)
    (hb : b.Spans us) (h : ∀ t, t ∈ ts ↔ t ∈ us) : a = b := by
  have hearliest : a.earliest = b.earliest :=
    Timestamp.le_antisymm (ha.earliest_le _ ((h _).2 hb.earliest_mem))
      (hb.earliest_le _ ((h _).1 ha.earliest_mem))
  have hlatest : a.latest = b.latest :=
    Timestamp.le_antisymm (hb.le_latest _ ((h _).1 ha.latest_mem))
      (ha.le_latest _ ((h _).2 hb.latest_mem))
  cases a
  cases b
  cases hearliest
  cases hlatest
  rfl

/-- The range that covers two ranges and nothing else before or behind them. -/
def join (a b : TimeRange) : TimeRange where
  earliest := min a.earliest b.earliest
  latest := max a.latest b.latest

theorem Spans.join {a b : TimeRange} {ts us : List Timestamp} (ha : a.Spans ts) (hb : b.Spans us) :
    (a.join b).Spans (ts ++ us) := by
  refine ⟨?_, fun t ht => ?_, ?_, fun t ht => ?_⟩
  · rw [TimeRange.join, List.mem_append]
    rcases Std.MinEqOr.min_eq_or a.earliest b.earliest with h | h
    · exact Or.inl (h.symm ▸ ha.earliest_mem)
    · exact Or.inr (h.symm ▸ hb.earliest_mem)
  · have hmin := Std.LawfulOrderInf.le_min_iff (a.join b).earliest a.earliest b.earliest
    obtain ⟨hlea, hleb⟩ := hmin.1 (Timestamp.le_refl _)
    rcases List.mem_append.1 ht with ht | ht
    · exact Timestamp.le_trans hlea (ha.earliest_le t ht)
    · exact Timestamp.le_trans hleb (hb.earliest_le t ht)
  · rw [TimeRange.join, List.mem_append]
    rcases Std.MaxEqOr.max_eq_or a.latest b.latest with h | h
    · exact Or.inl (h.symm ▸ ha.latest_mem)
    · exact Or.inr (h.symm ▸ hb.latest_mem)
  · have hmax := Std.LawfulOrderSup.max_le_iff a.latest b.latest (a.join b).latest
    obtain ⟨hale, hble⟩ := hmax.1 (Timestamp.le_refl _)
    rcases List.mem_append.1 ht with ht | ht
    · exact Timestamp.le_trans (ha.le_latest t ht) hale
    · exact Timestamp.le_trans (hb.le_latest t ht) hble

theorem spans_singleton (t : Timestamp) : Spans { earliest := t, latest := t } [t] where
  earliest_mem := List.mem_singleton_self t
  earliest_le _ h := List.eq_of_mem_singleton h ▸ Timestamp.le_refl t
  latest_mem := List.mem_singleton_self t
  le_latest _ h := List.eq_of_mem_singleton h ▸ Timestamp.le_refl t

theorem Spans.widen {a : TimeRange} {ts : List Timestamp} (h : a.Spans ts) (t : Timestamp) :
    (a.widen t).Spans (ts ++ [t]) := h.join (spans_singleton t)

end TimeRange

/-! ## Summaries -/

namespace Summary

/-- What a summary says of records. -/
structure Summarizes (s : Summary) (records : List Record) : Prop where
  total : s.total = records.length
  levels : s.levels.Tallies (records.map (·.level))
  range_none : s.range = none ↔ records = []
  range : ∀ range ∈ s.range, range.Spans (records.map (·.timestamp))

theorem summarizes_nil : Summarizes {} [] where
  total := List.length_nil.symm
  levels := LevelCounts.tallies_nil
  range_none := iff_of_true rfl rfl
  range _ h := nomatch h

theorem Summarizes.add {s : Summary} {records : List Record} (h : s.Summarizes records)
    (r : Record) : (s.add r).Summarizes (records ++ [r]) := by
  refine ⟨?_, ?_, ?_, ?_⟩
  · rw [Summary.add, h.total, List.length_append, List.length_singleton]
  · rw [List.map_append, List.map_singleton]
    exact h.levels.increment r.level
  · simp [Summary.add]
  · intro range hrange
    rw [List.map_append, List.map_singleton]
    rw [Summary.add] at hrange
    cases hs : s.range with
    | none =>
      rw [hs] at hrange
      cases hrange
      rw [h.range_none.1 hs]
      exact TimeRange.spans_singleton r.timestamp
    | some a =>
      rw [hs] at hrange
      cases hrange
      exact (h.range a hs).widen r.timestamp

theorem Summarizes.foldl {s : Summary} {before : List Record} (h : s.Summarizes before)
    (records : List Record) : (records.foldl Summary.add s).Summarizes (before ++ records) := by
  induction records generalizing s before with
  | nil => rwa [List.foldl_nil, List.append_nil]
  | cons r records ih =>
    have hnext := ih (h.add r)
    rwa [List.append_assoc, List.singleton_append] at hnext

theorem summarizes_ofRecords (records : List Record) : (ofRecords records).Summarizes records :=
  summarizes_nil.foldl records

theorem levels_foldl (s : Summary) (records : List Record) :
    (records.foldl Summary.add s).levels =
      (records.map (·.level)).foldl LevelCounts.increment s.levels := by
  induction records generalizing s with
  | nil => rfl
  | cons r records ih => exact ih (s.add r)

theorem levels_ofRecords (records : List Record) :
    (ofRecords records).levels = (records.map (·.level)).foldl LevelCounts.increment {} :=
  levels_foldl {} records

/-- The summaries agree in all but the order in which the levels came first. -/
structure CountsAs (s s' : Summary) : Prop where
  total : s.total = s'.total
  range : s.range = s'.range
  errors : s.errors = s'.errors
  warnings : s.warnings = s'.warnings
  get : ∀ l, s.levels.get l = s'.levels.get l

/-- The first summary is of the records of the second one, followed by those of the third. -/
structure Adds (s a b : Summary) : Prop where
  total : s.total = a.total + b.total
  range : s.range = Option.merge TimeRange.join a.range b.range
  errors : s.errors = a.errors + b.errors
  warnings : s.warnings = a.warnings + b.warnings
  get : ∀ l, s.levels.get l = a.levels.get l + b.levels.get l
  names : s.levels.names = a.levels.names ++ b.levels.names.filter (· ∉ a.levels.names)

theorem countsAs_of_perm {xs ys : List Record} (h : xs.Perm ys) :
    (ofRecords xs).CountsAs (ofRecords ys) := by
  have hx := summarizes_ofRecords xs
  have hy := summarizes_ofRecords ys
  have hget : ∀ l, (ofRecords xs).levels.get l = (ofRecords ys).levels.get l := by
    intro l
    rw [hx.levels.get, hy.levels.get, (h.map _).count_eq]
  have hrange : (ofRecords xs).range = (ofRecords ys).range := by
    cases hxs : (ofRecords xs).range with
    | none =>
      have hnil := hx.range_none.1 hxs
      subst hnil
      exact (hy.range_none.2 h.nil_eq.symm).symm
    | some a =>
      cases hys : (ofRecords ys).range with
      | none =>
        have hnil := hy.range_none.1 hys
        subst hnil
        rw [hx.range_none.2 h.eq_nil] at hxs
        cases hxs
      | some b =>
        rw [(hx.range a hxs).eq_of_mem_iff (hy.range b hys) fun t => (h.map _).mem_iff]
  exact ⟨by rw [hx.total, hy.total, h.length_eq], hrange, hget _, hget _, hget⟩

theorem adds_append (xs ys : List Record) :
    (ofRecords (xs ++ ys)).Adds (ofRecords xs) (ofRecords ys) := by
  have hx := summarizes_ofRecords xs
  have hy := summarizes_ofRecords ys
  have hall := summarizes_ofRecords (xs ++ ys)
  have hget : ∀ l, (ofRecords (xs ++ ys)).levels.get l =
      (ofRecords xs).levels.get l + (ofRecords ys).levels.get l := by
    intro l
    rw [hall.levels.get, hx.levels.get, hy.levels.get, List.map_append, List.count_append]
  refine ⟨by rw [hall.total, hx.total, hy.total, List.length_append], ?_, hget _, hget _, hget, ?_⟩
  · cases hxs : (ofRecords xs).range with
    | none =>
      rw [hx.range_none.1 hxs, List.nil_append, Option.merge_none_left]
    | some a =>
      cases hys : (ofRecords ys).range with
      | none => rw [hy.range_none.1 hys, List.append_nil, Option.merge_none_right, hxs]
      | some b =>
        cases hrange : (ofRecords (xs ++ ys)).range with
        | none =>
          have hnil := List.append_eq_nil_iff.1 (hall.range_none.1 hrange)
          rw [hx.range_none.2 hnil.1] at hxs
          cases hxs
        | some c =>
          have hjoin := (hx.range a hxs).join (hy.range b hys)
          rw [(hall.range c hrange).eq_of_mem_iff hjoin fun t => by rw [List.map_append]]
          rfl
  · rw [levels_ofRecords, levels_ofRecords, levels_ofRecords, List.map_append, List.foldl_append,
      LevelCounts.names_foldl]

/-- **Summaries count, whatever the order.** A summary says of its records how many there are, how
often every level occurs, with the levels in the order in which they came first, and the first and
the last timestamp, if there is one. Counting with an index never fails and gives the same counts.
In another order of the records only the order of the levels can differ, and the summary of two
lists behind each other adds up what the summaries of both say. -/
theorem ofRecords_counts :
    (∀ records, (ofRecords records).Summarizes records ∧
      ∀ l n, (l, n) ∈ (ofRecords records).levels.entries →
        n = (records.map (·.level)).count l ∧ 1 ≤ n) ∧
    (∀ records : List Record, ∃ c,
      (records.map (·.level)).foldlM IndexedCounts.increment? {} = some c ∧
        c.entries.toList = (ofRecords records).levels.entries ∧
        ∀ l, c.get? l = some ((ofRecords records).levels.get l)) ∧
    (∀ xs ys : List Record, xs.Perm ys → (ofRecords xs).CountsAs (ofRecords ys)) ∧
    ∀ xs ys, (ofRecords (xs ++ ys)).Adds (ofRecords xs) (ofRecords ys) := by
  refine ⟨fun records => ?_, fun records => ?_, fun xs ys => countsAs_of_perm, adds_append⟩
  · have h := summarizes_ofRecords records
    exact ⟨h, fun l n => h.levels.eq_count⟩
  · obtain ⟨c, hc, htracks⟩ := IndexedCounts.tracks_empty.foldlM (records.map (·.level))
    rw [← levels_ofRecords] at htracks
    exact ⟨c, hc, htracks.entries, htracks.get?_eq⟩

/-- Three records whose first two change places: the levels come in another order. -/
theorem ofRecords_counts_swapped :
    let moment : Timestamp :=
      { date := { year := 2024, month := 1, day := 1, year_mem := by decide,
                  month_mem := by decide, day_mem := by decide }
        time := .midnight }
    let later : Timestamp :=
      { moment with
        time := { Time.midnight with secondOfDay := 3600, secondOfDay_lt := by decide } }
    let info : Record := { timestamp := later, level := "Info", id := ⟨1⟩ }
    let error : Record := { timestamp := moment, level := "Error", id := ⟨2⟩ }
    let shout : Record := { timestamp := later, level := "ERROR", id := ⟨3⟩ }
    (ofRecords [info, error, shout]).levels.names = ["Info", "Error", "ERROR"] ∧
      (ofRecords [error, info, shout]).levels.names = ["Error", "Info", "ERROR"] ∧
      [info, error, shout].Perm [error, info, shout] ∧
      (ofRecords [info, error, shout]).CountsAs (ofRecords [error, info, shout]) := by
  intro moment later info error shout
  have hswap : [info, error, shout].Perm [error, info, shout] := List.Perm.swap error info [shout]
  exact ⟨by decide, by decide, hswap, ofRecords_counts.2.2.1 _ _ hswap⟩

end Summary

end LogDigest
