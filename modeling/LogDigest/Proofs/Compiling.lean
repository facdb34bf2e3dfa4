import LogDigest.Filter.Compiled
import LogDigest.Proofs.Words
import Mathlib.Data.List.Forall2

/-!
# Filters follow their grammar

A filter text is cut at the words `AND` and `OR` into its *clauses*. Under either reading these are
the texts that are read as criteria, in their order; the readings differ only in how the criteria
are grouped (`CompiledFilter.follows_grammar`).

**Cutting word by word.** A filter text is cut in one pass over its words, which completes a
criterion or a group at each connector. What is under way at some word, with the words that follow,
is cut like the words themselves (`FilterLexer.groups_run`), so the pass comes to a cut at `OR` and
cuts at all connectors between.

**Cutting twice.** The reading with groups cuts at `OR` first and each section at `AND` and `OR`
then. Cutting at some separators and then at all of them is cutting at all of them
(`flatMap_splitOnP`), so the clauses of the sections, one section after the other, are the clauses
of the text, and a section without any disappears without a trace.

**Reading.** Reading groups one after the other is reading their clauses one after the other
(`readAll_flatten`). Hence both readings fail together, with the error of the first clause that is
no criterion.

**Admitting.** No group is empty, so a group that holds has a criterion that holds, and an entry
that meets all criteria meets those of any group.
-/

namespace LogDigest

open Text

/-! ## Cutting -/

/-- Cutting at some separators and then at all of them is cutting at all of them. -/
theorem flatMap_splitOnP {α : Type} {p q : α → Bool} (h : ∀ x, q x = true → p x = true)
    (xs : List α) : (xs.splitOnP q).flatMap (List.splitOnP p) = xs.splitOnP p := by
  induction xs with
  | nil => rfl
  | cons x xs ih =>
    obtain ⟨part, parts, hparts⟩ := List.exists_cons_of_ne_nil (List.splitOnP_ne_nil q xs)
    simp only [List.splitOnP_cons_eq_if_modifyHead]
    rw [← ih, hparts]
    by_cases hq : q x = true
    · rw [if_pos hq, if_pos (h x hq), List.flatMap_cons, List.splitOnP_nil]
      rfl
    · rw [if_neg hq, List.modifyHead_cons, List.flatMap_cons, List.flatMap_cons,
        List.splitOnP_cons_eq_if_modifyHead]
      by_cases hp : p x = true
      · rw [if_pos hp, if_pos hp, List.cons_append]
      · obtain ⟨first, others, hfirst⟩ := List.exists_cons_of_ne_nil (List.splitOnP_ne_nil p part)
        rw [if_neg hp, if_neg hp, hfirst, List.modifyHead_cons, List.cons_append, List.cons_append,
          List.modifyHead_cons]

/-! ## Clauses -/

/-- Whether a word joins criteria. -/
def isConnector (w : List Char) : Bool := w = andWord || w = orWord

/-- The clauses of a word list: what stands between connectors, joined by single spaces, where
anything stands there. -/
def clausesOf (ws : List (List Char)) : List (List Char) :=
  ((ws.splitOnP isConnector).filter fun part => !part.isEmpty).map unwords

theorem flatMap_clausesOf (ws : List (List Char)) :
    (ws.splitOnP (· = orWord)).flatMap clausesOf = clausesOf ws := by
  have hcut := flatMap_splitOnP (p := isConnector) (q := fun w => w = orWord)
    (fun w hw => by simpa [isConnector] using Or.inr (of_decide_eq_true hw)) ws
  have hclauses : clausesOf =
      fun ws => ((ws.splitOnP isConnector).filter fun part => !part.isEmpty).map unwords := rfl
  rw [hclauses, ← List.map_flatMap, ← List.filter_flatMap, hcut]

theorem clausesOf_of_plain {ws : List (List Char)} (h : ∀ w ∈ ws, isConnector w = false) :
    clausesOf ws = if ws.isEmpty then [] else [unwords ws] := by
  rw [clausesOf, List.splitOnP_eq_singleton h]
  cases ws <;> rfl

theorem clausesOf_append_cons (xs : List (List Char)) {w : List Char} (hw : isConnector w = true)
    (ys : List (List Char)) : clausesOf (xs ++ w :: ys) = clausesOf xs ++ clausesOf ys := by
  simp only [clausesOf, List.splitOnP_append_cons xs ys hw, List.filter_append, List.map_append]

/-! ## Cutting word by word -/

namespace FilterLexer

variable {connectives : Connectives} {l : FilterLexer}

def endsGroup (connectives : Connectives) (w : List Char) : Bool :=
  w = orWord && connectives = .orOfAnds

theorem flushCriterion_eq (hplain : ∀ w ∈ l.pending, isConnector w = false) :
    l.flushCriterion =
      { groups := l.groups, group := l.group ++ clausesOf l.pending, pending := [] } := by
  rw [clausesOf_of_plain hplain]
  rcases l with ⟨groups, group, _ | ⟨w, ws⟩⟩
  · simp [flushCriterion]
  · rfl

theorem flushGroup_eq (l : FilterLexer) :
    l.flushGroup =
      { groups := l.groups ++ [l.group].filter fun g => !g.isEmpty, group := [],
        pending := l.pending } := by
  rcases l with ⟨groups, _ | ⟨t, ts⟩, pending⟩
  · simp [flushGroup]
  · rfl

theorem flush_eq (hplain : ∀ w ∈ l.pending, isConnector w = false) :
    l.flushCriterion.flushGroup =
      { groups := l.groups ++ [l.group ++ clausesOf l.pending].filter fun g => !g.isEmpty,
        group := [], pending := [] } := by
  rw [flushCriterion_eq hplain, flushGroup_eq]

/-- A word ends a group, or only a criterion, or it belongs to the one under way. -/
theorem step_cases (connectives : Connectives) (l : FilterLexer) (w : List Char) :
    (endsGroup connectives w = true ∧ step connectives l w = l.flushCriterion.flushGroup) ∨
    (endsGroup connectives w = false ∧ isConnector w = true ∧
      step connectives l w = l.flushCriterion) ∨
    (endsGroup connectives w = false ∧ isConnector w = false ∧
      step connectives l w = { l with pending := l.pending ++ [w] }) := by
  unfold step
  by_cases hgroup : w = orWord ∧ connectives = .orOfAnds
  · exact Or.inl ⟨by simpa [endsGroup] using hgroup, if_pos hgroup⟩
  · have hends : endsGroup connectives w = false := by simpa [endsGroup] using hgroup
    by_cases hword : w = andWord ∨ w = orWord
    · exact Or.inr (Or.inl ⟨hends, by simpa [isConnector] using hword,
        by rw [if_neg hgroup, if_pos hword]⟩)
    · exact Or.inr (Or.inr ⟨hends, by simpa [isConnector] using hword,
        by rw [if_neg hgroup, if_neg hword]⟩)

/-- Behind the last word stand the groups that were complete before these words, and behind them the
cut of what was under way and of the words. -/
theorem groups_run (ws : List (List Char)) (hplain : ∀ w ∈ l.pending, isConnector w = false)
    {part : List (List Char)} {parts : List (List (List Char))}
    (hcut : ws.splitOnP (endsGroup connectives) = part :: parts) :
    (ws.foldl (step connectives) l).flushCriterion.flushGroup.groups =
      l.groups ++ ((l.group ++ clausesOf (l.pending ++ part)) :: parts.map clausesOf).filter
        fun g => !g.isEmpty := by
  have hnone : ∀ w ∈ ([] : List (List Char)), isConnector w = false := nofun
  induction ws generalizing l part parts with
  | nil =>
    rw [List.splitOnP_nil] at hcut
    cases hcut
    rw [List.foldl_nil, flush_eq hplain, List.append_nil, List.map_nil]
  | cons w ws ih =>
    obtain ⟨first, others, hrest⟩ :=
      List.exists_cons_of_ne_nil (List.splitOnP_ne_nil (endsGroup connectives) ws)
    rw [List.splitOnP_cons_eq_if_modifyHead, hrest] at hcut
    rw [List.foldl_cons]
    rcases step_cases connectives l w with ⟨hends, hstep⟩ | ⟨hends, hword, hstep⟩ |
      ⟨hends, hword, hstep⟩ <;> rw [hends] at hcut <;> cases hcut <;> rw [hstep]
    · rw [flush_eq hplain, ih hnone hrest, List.append_nil, List.append_assoc,
        ← List.filter_append]
      rfl
    · rw [flushCriterion_eq hplain, ih hnone hrest, clausesOf_append_cons _ hword,
        List.append_assoc, List.nil_append]
    · have hmore : ∀ v ∈ l.pending ++ [w], isConnector v = false := by
        intro v hv
        rcases List.mem_append.1 hv with hv | hv
        · exact hplain v hv
        · rw [List.mem_singleton.1 hv]
          exact hword
      rw [ih hmore hrest, List.append_assoc, List.singleton_append]

/-- The pass over the words is a cut at the ends of groups and cuts at all connectors between. -/
theorem criterionGroups_eq (connectives : Connectives) (text : List Char) :
    criterionGroups connectives text =
      (((words text).splitOnP (endsGroup connectives)).map clausesOf).filter
        fun group => !group.isEmpty := by
  obtain ⟨part, parts, hcut⟩ :=
    List.exists_cons_of_ne_nil (List.splitOnP_ne_nil (endsGroup connectives) (words text))
  have hnone : ∀ w ∈ ([] : List (List Char)), isConnector w = false := nofun
  rw [criterionGroups, groups_run (words text) hnone hcut, hcut]
  rfl

end FilterLexer

namespace CompiledFilter

def clauses (text : String) : List (List Char) := clausesOf (words text.toList)

/-- The clauses of a filter text by the sections between the words `OR`, for each section that has
any. -/
def clauseGroups (text : String) : List (List (List Char)) :=
  (((words text.toList).splitOnP (· = orWord)).map clausesOf).filter fun group => !group.isEmpty

theorem flatten_clauseGroups (text : String) : (clauseGroups text).flatten = clauses text := by
  rw [clauseGroups, List.flatten_filter_not_isEmpty, ← List.flatMap_def, flatMap_clausesOf, clauses]

theorem criterionGroups_legacy (text : String) :
    criterionGroups .legacy text.toList = [clauses text].filter fun group => !group.isEmpty := by
  have hnone : ∀ w ∈ words text.toList, FilterLexer.endsGroup .legacy w = false := by
    intro w _
    exact Bool.and_false _
  rw [FilterLexer.criterionGroups_eq, List.splitOnP_eq_singleton hnone, List.map_singleton, clauses]

theorem criterionGroups_orOfAnds (text : String) :
    criterionGroups .orOfAnds text.toList = clauseGroups text := by
  have hends : FilterLexer.endsGroup .orOfAnds = fun w => decide (w = orWord) := by
    funext w
    exact Bool.and_true _
  rw [FilterLexer.criterionGroups_eq, hends, clauseGroups]

theorem flatten_criterionGroups (connectives : Connectives) (text : String) :
    (criterionGroups connectives text.toList).flatten = clauses text := by
  cases connectives with
  | legacy =>
    rw [criterionGroups_legacy, List.flatten_filter_not_isEmpty, List.flatten_singleton]
  | orOfAnds => rw [criterionGroups_orOfAnds, flatten_clauseGroups]

theorem nil_notMem_criterionGroups (connectives : Connectives) (text : String) :
    [] ∉ criterionGroups connectives text.toList := by
  intro h
  rw [FilterLexer.criterionGroups_eq] at h
  exact absurd (List.mem_filter.1 h).2 (by decide)

/-! ## Reading -/

/-- The clause is a text of the criterion. -/
def ReadsAs (t : List Char) (c : Criterion) : Prop := Criterion.ofText t = .ok c

/-- The error belongs to the first of the clauses that is no criterion. -/
def FailsFirst (ts : List (List Char)) (e : FilterError) : Prop :=
  ∃ before t after, ts = before ++ t :: after ∧ (∀ u ∈ before, ∃ c, ReadsAs u c) ∧
    Criterion.ofText t = .error e

theorem readAll_eq_ok_iff {ts : List (List Char)} {cs : List Criterion} :
    readAll ts = .ok cs ↔ List.Forall₂ ReadsAs ts cs := by
  induction ts generalizing cs with
  | nil => simp [readAll, eq_comm]
  | cons t ts ih =>
    rw [readAll, List.forall₂_cons_left_iff]
    cases ht : Criterion.ofText t with
    | error e => simp [ReadsAs, ht]
    | ok c =>
      cases hts : readAll ts with
      | error e => simp [ReadsAs, ht, ← ih, hts, Except.map]
      | ok ds => simp [ReadsAs, ht, ← ih, hts, Except.map, eq_comm]

theorem readAll_eq_error_iff {ts : List (List Char)} {e : FilterError} :
    readAll ts = .error e ↔ FailsFirst ts e := by
  induction ts with
  | nil => simp [readAll, FailsFirst]
  | cons t ts ih =>
    rw [readAll]
    cases ht : Criterion.ofText t with
    | error d =>
      dsimp only
      constructor
      · intro h
        cases h
        exact ⟨[], t, ts, rfl, nofun, ht⟩
      · rintro ⟨before, u, after, hsplit, hbefore, hu⟩
        cases before with
        | nil =>
          cases hsplit
          rw [ht] at hu
          exact congrArg Except.error (Except.error.inj hu)
        | cons v before =>
          cases hsplit
          obtain ⟨c, hc⟩ := hbefore _ List.mem_cons_self
          rw [ReadsAs, ht] at hc
          cases hc
    | ok c =>
      have hmap : (readAll ts).map (c :: ·) = .error e ↔ readAll ts = .error e := by
        cases readAll ts <;> simp [Except.map]
      dsimp only
      rw [hmap, ih]
      constructor
      · rintro ⟨before, u, after, rfl, hbefore, hu⟩
        exact ⟨t :: before, u, after, rfl, List.forall_mem_cons.2 ⟨⟨c, ht⟩, hbefore⟩, hu⟩
      · rintro ⟨before, u, after, hsplit, hbefore, hu⟩
        cases before with
        | nil =>
          cases hsplit
          rw [ht] at hu
          cases hu
        | cons v before =>
          cases hsplit
          exact ⟨before, u, after, rfl, (List.forall_mem_cons.1 hbefore).2, hu⟩

theorem readAll_append (ts us : List (List Char)) :
    readAll (ts ++ us) = (readAll ts).bind fun cs => (readAll us).map (cs ++ ·) := by
  induction ts with
  | nil =>
    rw [List.nil_append, readAll]
    cases readAll us <;> rfl
  | cons t ts ih =>
    rw [List.cons_append, readAll, readAll, ih]
    cases Criterion.ofText t with
    | error e => rfl
    | ok c => cases readAll ts <;> cases readAll us <;> rfl

theorem readAll_flatten (gs : List (List (List Char))) :
    readAll gs.flatten = (readGroups gs).map List.flatten := by
  induction gs with
  | nil => rfl
  | cons g gs ih =>
    rw [List.flatten_cons, readAll_append, readGroups, ih]
    cases readAll g with
    | error e => rfl
    | ok cs => cases readGroups gs <;> rfl

theorem readGroups_eq_ok_iff {gs : List (List (List Char))} {groups : List (List Criterion)} :
    readGroups gs = .ok groups ↔ List.Forall₂ (List.Forall₂ ReadsAs) gs groups := by
  induction gs generalizing groups with
  | nil => simp [readGroups, eq_comm]
  | cons g gs ih =>
    rw [readGroups, List.forall₂_cons_left_iff]
    cases hg : readAll g with
    | error e => simp [← readAll_eq_ok_iff, hg]
    | ok cs =>
      cases hgs : readGroups gs with
      | error e => simp [← readAll_eq_ok_iff, hg, ← ih, hgs, Except.map]
      | ok rest => simp [← readAll_eq_ok_iff, hg, ← ih, hgs, Except.map, eq_comm]

/-! ## Compiling -/

variable {connectives : Connectives} {text : String} {f : CompiledFilter} {e : Entry}

/-- Under either reading the criteria are what the clauses are read as. -/
theorem map_criteria_ofText (connectives : Connectives) (text : String) :
    (ofText connectives text).map criteria = readAll (clauses text) := by
  rw [ofText, ← flatten_criterionGroups connectives, readAll_flatten]
  cases readGroups (criterionGroups connectives text.toList) <;> rfl

theorem ofText_eq_error_iff {error : FilterError} :
    ofText connectives text = .error error ↔ FailsFirst (clauses text) error := by
  rw [← readAll_eq_error_iff, ← map_criteria_ofText connectives]
  cases ofText connectives text <;> simp [Except.map]

theorem readsAs_criteria (h : ofText connectives text = .ok f) :
    List.Forall₂ ReadsAs (clauses text) f.criteria := by
  rw [← readAll_eq_ok_iff, ← map_criteria_ofText connectives, h]
  rfl

theorem readsAs_groups (h : ofText connectives text = .ok f) :
    List.Forall₂ (List.Forall₂ ReadsAs) (criterionGroups connectives text.toList) f.groups := by
  rw [← readGroups_eq_ok_iff]
  rw [ofText] at h
  cases hgroups : readGroups (criterionGroups connectives text.toList) with
  | error d => rw [hgroups] at h; cases h
  | ok groups => rw [hgroups] at h; cases h; rfl

/-- Reading makes no group empty and empties none. -/
theorem nil_mem_iff_of_readsAs {gs : List (List (List Char))} {groups : List (List Criterion)}
    (h : List.Forall₂ (List.Forall₂ ReadsAs) gs groups) : [] ∈ groups ↔ [] ∈ gs := by
  induction h with
  | nil => simp
  | @cons g group gs groups hgroup _ ih =>
    have hnil : [] = group ↔ [] = g := by
      constructor <;> rintro rfl
      · exact (List.forall₂_nil_right_iff.1 hgroup).symm
      · exact (List.forall₂_nil_left_iff.1 hgroup).symm
    rw [List.mem_cons, List.mem_cons, hnil, ih]

theorem nil_notMem_groups (h : ofText connectives text = .ok f) : [] ∉ f.groups := by
  rw [nil_mem_iff_of_readsAs (readsAs_groups h)]
  exact nil_notMem_criterionGroups connectives text

theorem criteria_eq_nil_iff (h : ofText connectives text = .ok f) :
    f.criteria = [] ↔ clauses text = [] := by
  rw [← List.length_eq_zero_iff, ← (readsAs_criteria h).length_eq, List.length_eq_zero_iff]

/-- Only a filter without clauses has no group. -/
theorem groups_eq_nil_iff (h : ofText connectives text = .ok f) :
    f.groups = [] ↔ clauses text = [] := by
  rw [← criteria_eq_nil_iff h, criteria, List.flatten_eq_nil_iff]
  constructor
  · intro hgroups
    rw [hgroups]
    nofun
  · intro hall
    cases hgroups : f.groups with
    | nil => rfl
    | cons group groups =>
      have hmem : group ∈ f.groups := by rw [hgroups]; exact List.mem_cons_self
      rw [hall group hmem] at hmem
      exact absurd hmem (nil_notMem_groups h)

theorem isAlways_iff_groups : f.isAlways = true ↔ f.groups = [] := List.isEmpty_iff

/-! ### Admitting -/

/-- The entry meets the criterion that the clause is read as. -/
def Meets (e : Entry) (t : List Char) : Prop := ∃ c, ReadsAs t c ∧ c.holds e = true

theorem forall_holds_iff {ts : List (List Char)} {cs : List Criterion}
    (h : List.Forall₂ ReadsAs ts cs) : (∀ c ∈ cs, c.holds e = true) ↔ ∀ t ∈ ts, Meets e t := by
  induction h with
  | nil => simp
  | @cons t c ts cs hread _ ih =>
    have hmeets : Meets e t ↔ c.holds e = true := by
      constructor
      · rintro ⟨d, hd, hholds⟩
        rw [ReadsAs, hread] at hd
        cases hd
        exact hholds
      · intro hholds
        exact ⟨c, hread, hholds⟩
    rw [List.forall_mem_cons, List.forall_mem_cons, hmeets, ih]

theorem exists_group_holds_iff {gs : List (List (List Char))} {groups : List (List Criterion)}
    (h : List.Forall₂ (List.Forall₂ ReadsAs) gs groups) :
    (∃ group ∈ groups, ∀ c ∈ group, c.holds e = true) ↔ ∃ g ∈ gs, ∀ t ∈ g, Meets e t := by
  induction h with
  | nil => simp
  | cons hgroup _ ih =>
    rw [List.exists_mem_cons_iff, List.exists_mem_cons_iff, forall_holds_iff hgroup, ih]

theorem admits_iff : f.admits e = true ↔
    f.groups = [] ∨ ∃ group ∈ f.groups, ∀ c ∈ group, c.holds e = true := by
  rw [admits, Bool.or_eq_true, isAlways_iff_groups, List.any_eq_true]
  simp only [List.all_eq_true]

/-- Under the legacy reading an entry has to meet every clause. -/
theorem legacy_admits_iff (h : ofText .legacy text = .ok f) :
    f.admits e = true ↔ ∀ t ∈ clauses text, Meets e t := by
  rw [admits_iff, exists_group_holds_iff (readsAs_groups h), groups_eq_nil_iff h,
    criterionGroups_legacy]
  cases hclauses : clauses text with
  | nil => simp
  | cons t ts => simp

/-- Under the reading with groups an entry has to meet every clause of some section that has any,
unless no section has. -/
theorem orOfAnds_admits_iff (h : ofText .orOfAnds text = .ok f) :
    f.admits e = true ↔
      clauses text = [] ∨ ∃ g ∈ clauseGroups text, ∀ t ∈ g, Meets e t := by
  rw [admits_iff, exists_group_holds_iff (readsAs_groups h), groups_eq_nil_iff h,
    criterionGroups_orOfAnds]

/-- Who meets every clause meets those of some section. -/
theorem exists_group_of_forall_meets (h : ∀ t ∈ clauses text, Meets e t) :
    clauses text = [] ∨ ∃ g ∈ clauseGroups text, ∀ t ∈ g, Meets e t := by
  rw [← flatten_clauseGroups] at h ⊢
  cases hgroups : clauseGroups text with
  | nil => exact Or.inl rfl
  | cons g gs =>
    rw [hgroups] at h
    exact Or.inr ⟨g, List.mem_cons_self,
      fun t ht => h t (List.mem_flatten.2 ⟨g, List.mem_cons_self, ht⟩)⟩

/-! ### Exchanging connectors -/

/-- The word lists differ at most in that a connector stands where another one stood. -/
def Exchanged (ws vs : List (List Char)) : Prop :=
  List.Forall₂ (fun w v => w = v ∨ isConnector w = true ∧ isConnector v = true) ws vs

theorem Exchanged.clausesOf_eq {ws vs : List (List Char)} (h : Exchanged ws vs) :
    clausesOf ws = clausesOf vs := by
  have hparts : ws.splitOnP isConnector = vs.splitOnP isConnector := by
    induction h with
    | nil => rfl
    | cons hword _ ih =>
      rw [List.splitOnP_cons_eq_if_modifyHead, List.splitOnP_cons_eq_if_modifyHead, ih]
      rcases hword with rfl | ⟨hw, hv⟩
      · rfl
      · rw [if_pos hw, if_pos hv]
  rw [clausesOf, hparts, clausesOf]

theorem Exchanged.ofText_legacy {other : String}
    (h : Exchanged (words text.toList) (words other.toList)) :
    ofText .legacy other = ofText .legacy text := by
  have hclauses : clauses other = clauses text := h.clausesOf_eq.symm
  rw [ofText, ofText, criterionGroups_legacy, criterionGroups_legacy, hclauses]

/-! ## The grammar -/

/-- What compiling a filter text comes to. -/
structure FollowsGrammar (text : String) : Prop where
  /-- Compiling fails if a clause is no criterion, and then with the error of the first. -/
  fails_iff : ∀ connectives, (∃ error, ofText connectives text = .error error) ↔
    ∃ t ∈ clauses text, ∃ error, Criterion.ofText t = .error error
  error_iff : ∀ connectives error,
    ofText connectives text = .error error ↔ FailsFirst (clauses text) error
  /-- The criteria in their order are what the clauses are read as. -/
  criteria : ∀ connectives f, ofText connectives text = .ok f →
    List.Forall₂ ReadsAs (clauses text) f.criteria
  groups_ne_nil : ∀ connectives f, ofText connectives text = .ok f → ∀ g ∈ f.groups, g ≠ []
  isAlways_iff : ∀ connectives f, ofText connectives text = .ok f →
    (f.isAlways = true ↔ clauses text = [])
  legacy_groups : ∀ f, ofText .legacy text = .ok f → f.groups.length ≤ 1
  /-- There is one group for each section that has a clause. -/
  orOfAnds_groups : ∀ f, ofText .orOfAnds text = .ok f →
    List.Forall₂ (List.Forall₂ ReadsAs) (clauseGroups text) f.groups
  legacy_admits : ∀ f e, ofText .legacy text = .ok f →
    (f.admits e = true ↔ ∀ t ∈ clauses text, Meets e t)
  orOfAnds_admits : ∀ f e, ofText .orOfAnds text = .ok f →
    (f.admits e = true ↔ clauses text = [] ∨ ∃ g ∈ clauseGroups text, ∀ t ∈ g, Meets e t)
  admits_of_legacy : ∀ f g e, ofText .legacy text = .ok f → ofText .orOfAnds text = .ok g →
    f.admits e = true → g.admits e = true
  /-- The legacy reading does not tell connectors apart. -/
  legacy_exchange : ∀ other, Exchanged (words text.toList) (words other.toList) →
    ofText .legacy other = ofText .legacy text

theorem FailsFirst.exists_of_mem {ts : List (List Char)} {t : List Char} (ht : t ∈ ts)
    {error : FilterError} (hread : Criterion.ofText t = .error error) :
    ∃ first, FailsFirst ts first := by
  simp only [← readAll_eq_error_iff]
  cases hts : readAll ts with
  | error first => exact ⟨first, rfl⟩
  | ok cs =>
    obtain ⟨c, hc⟩ : ∃ c, ReadsAs t c := by
      rw [readAll_eq_ok_iff] at hts
      induction hts with
      | nil => cases ht
      | cons hfirst _ ih =>
        rcases List.mem_cons.1 ht with rfl | ht
        · exact ⟨_, hfirst⟩
        · exact ih ht
    rw [ReadsAs, hread] at hc
    cases hc

/-- **Filters follow their grammar.** Whatever the text is, its clauses decide under either reading
which criteria the filter has, and so whom it admits. -/
theorem follows_grammar (text : String) : FollowsGrammar text where
  fails_iff connectives := by
    simp only [ofText_eq_error_iff]
    constructor
    · rintro ⟨error, before, t, after, hclauses, -, ht⟩
      exact ⟨t, by rw [hclauses]; simp, error, ht⟩
    · rintro ⟨t, ht, error, hread⟩
      exact FailsFirst.exists_of_mem ht hread
  error_iff _ _ := ofText_eq_error_iff
  criteria _ _ h := readsAs_criteria h
  groups_ne_nil _ _ h g hg hnil := nil_notMem_groups h (hnil ▸ hg)
  isAlways_iff _ _ h := isAlways_iff_groups.trans (groups_eq_nil_iff h)
  legacy_groups f h := by
    rw [← (readsAs_groups h).length_eq, criterionGroups_legacy]
    exact List.length_filter_le _ _
  orOfAnds_groups f h := criterionGroups_orOfAnds text ▸ readsAs_groups h
  legacy_admits _ _ h := legacy_admits_iff h
  orOfAnds_admits _ _ h := orOfAnds_admits_iff h
  admits_of_legacy f g e hf hg hadmits :=
    (orOfAnds_admits_iff hg).2 (exists_group_of_forall_meets ((legacy_admits_iff hf).1 hadmits))
  legacy_exchange _ h := h.ofText_legacy

/-- Leading, trailing and repeated connectors leave no group behind. -/
example : ofText .orOfAnds "OR Level=a AND AND User=b  c OR OR AND Size=1 OR" =
    .ok
      { groups :=
          [[{ field := .level, value := .text "a" }, { field := .user, value := .text "b c" }],
           [{ field := .size, value := .integer 1 }]] } := by
  decide +kernel

end CompiledFilter

end LogDigest
