import LogDigest.Proofs.Compiling

/-!
# Filter texts compose

Two filter texts with a connector between them are a filter text again. What it compiles to is made
from what the two compile to (`CompiledFilter.joined_composes`).

**Clauses.** Under either reading the clauses of the joined text are those of the one and then those
of the other. So compiling fails like the first text, or else like the second, and under the legacy
reading the criteria of both have to hold.

**Groups.** The word `OR` puts the groups of the one before those of the other. The word `AND` joins
at a *seam*: the last section of the one and the first section of the other become one section. A
section without clauses leaves no group, so two groups become one exactly if a clause stands on
either side of the seam (`EndsInClause`, `BeginsInClause`); otherwise `AND` is no different from
`OR` (`CompiledFilter.joined_and_behind_or`).
-/

namespace LogDigest

open Text

/-! ## Seams -/

/-- The lists of the one and then those of the other, with the last of the one and the first of the
other made one. -/
def seam {α : Type} : List (List α) → List (List α) → List (List α)
  | [], ys => ys
  | [x], [] => [x]
  | [x], y :: ys => (x ++ y) :: ys
  | x :: x' :: xs, ys => x :: seam (x' :: xs) ys

section Seam

variable {α β : Type}

theorem seam_nil (xs : List (List α)) : seam xs [] = xs := by
  induction xs with
  | nil => rfl
  | cons x xs ih =>
    cases xs with
    | nil => rfl
    | cons x' xs => rw [seam, ih]

theorem seam_cons_of_ne_nil (x : List α) {xs : List (List α)} (h : xs ≠ []) (ys : List (List α)) :
    seam (x :: xs) ys = x :: seam xs ys := by
  cases xs with
  | nil => exact absurd rfl h
  | cons x' xs => rfl

theorem seam_append_cons (xs : List (List α)) (x y : List α) (ys : List (List α)) :
    seam (xs ++ [x]) (y :: ys) = xs ++ (x ++ y) :: ys := by
  induction xs with
  | nil => rfl
  | cons x' xs ih => rw [List.cons_append, seam_cons_of_ne_nil _ (by simp), ih, List.cons_append]

theorem seam_assoc (xs ys zs : List (List α)) :
    seam (seam xs ys) zs = seam xs (seam ys zs) := by
  rcases List.eq_nil_or_concat' xs with rfl | ⟨before, x, rfl⟩
  · rfl
  cases ys with
  | nil => rw [seam_nil, seam]
  | cons y ys =>
    cases zs with
    | nil => rw [seam_nil, seam_nil]
    | cons z zs =>
      -- The middle lists are one list, which meets both neighbours, or at least two.
      rcases List.eq_nil_or_concat' ys with rfl | ⟨ys, y', rfl⟩
      · rw [seam_append_cons, seam_append_cons, seam, seam_append_cons, List.append_assoc]
      · have hleft : before ++ (x ++ y) :: (ys ++ [y']) = (before ++ (x ++ y) :: ys) ++ [y'] := by
          simp
        have hright : y :: (ys ++ [y']) = (y :: ys) ++ [y'] := rfl
        rw [seam_append_cons, hleft, seam_append_cons, hright, seam_append_cons, List.cons_append,
          seam_append_cons, List.append_assoc, List.cons_append]

/-- Without a separator between them two lists are cut with a seam. -/
theorem splitOnP_append (p : α → Bool) (xs ys : List α) :
    (xs ++ ys).splitOnP p = seam (xs.splitOnP p) (ys.splitOnP p) := by
  induction xs with
  | nil =>
    obtain ⟨part, parts, hparts⟩ := List.exists_cons_of_ne_nil (List.splitOnP_ne_nil p ys)
    rw [List.nil_append, List.splitOnP_nil, hparts, seam, List.nil_append]
  | cons x xs ih =>
    rw [List.cons_append, List.splitOnP_cons_eq_if_modifyHead,
      List.splitOnP_cons_eq_if_modifyHead, ih]
    by_cases hx : p x = true
    · rw [if_pos hx, if_pos hx, seam_cons_of_ne_nil _ (List.splitOnP_ne_nil p xs)]
    · obtain ⟨part, parts, hparts⟩ := List.exists_cons_of_ne_nil (List.splitOnP_ne_nil p xs)
      rw [if_neg hx, if_neg hx, hparts, List.modifyHead_cons]
      cases parts with
      | nil =>
        obtain ⟨first, others, hfirst⟩ := List.exists_cons_of_ne_nil (List.splitOnP_ne_nil p ys)
        rw [hfirst, seam, seam, List.modifyHead_cons, List.cons_append]
      | cons part' parts => rw [seam, seam, List.modifyHead_cons]

theorem forall₂_seam {R : α → β → Prop} {xs ys : List (List α)} {us vs : List (List β)}
    (h : List.Forall₂ (List.Forall₂ R) xs us) (h' : List.Forall₂ (List.Forall₂ R) ys vs) :
    List.Forall₂ (List.Forall₂ R) (seam xs ys) (seam us vs) := by
  induction h with
  | nil => exact h'
  | @cons x u xs us hfirst hrest ih =>
    cases hrest with
    | nil =>
      cases h' with
      | nil => exact .cons hfirst .nil
      | cons hmeet hbehind => exact .cons (List.rel_append hfirst hmeet) hbehind
    | cons hsecond hothers => exact .cons hfirst ih

end Seam

/-! ## Joined texts -/

/-- The words that join criteria. -/
inductive Connector where
  | and
  | or
deriving DecidableEq, Repr

def Connector.text : Connector → String
  | and => "AND"
  | or => "OR"

theorem Connector.isConnector_text (k : Connector) : isConnector k.text.toList = true := by
  cases k <;> decide

theorem Connector.isWord_text (k : Connector) : IsWord k.text.toList := by
  cases k <;> decide

/-- Two filter texts with a connector between them. -/
def joined (k : Connector) (a b : String) : String := a ++ " " ++ k.text ++ " " ++ b

theorem words_joined (k : Connector) (a b : String) :
    words (joined k a b).toList = words a.toList ++ k.text.toList :: words b.toList := by
  have hspace : " ".toList = [' '] := rfl
  rw [joined]
  simp only [String.toList_append, hspace, List.append_assoc, List.cons_append, List.nil_append]
  rw [words_append_blank (by decide), words_isWord_append k.isWord_text]

theorem joined_assoc (k l : Connector) (a b c : String) :
    joined l (joined k a b) c = joined k a (joined l b c) := by
  simp only [joined, String.append_assoc]

theorem clausesOf_append_connector {w : List Char} (h : isConnector w = true)
    (ws vs : List (List Char)) : clausesOf (ws ++ w :: vs) = clausesOf ws ++ clausesOf vs := by
  rw [clausesOf, List.splitOnP_append_cons ws vs h, List.filter_append, List.map_append, clausesOf,
    clausesOf]

namespace CompiledFilter

/-- The clauses of a filter text by the sections between the words `OR`, sections without clauses
included. -/
def clauseSections (text : String) : List (List (List Char)) :=
  ((words text.toList).splitOnP (· = orWord)).map clausesOf

/-- A clause stands behind the last word `OR`. -/
def EndsInClause (text : String) : Prop := (clauseSections text).getLast? ≠ some []

/-- A clause stands before the first word `OR`. -/
def BeginsInClause (text : String) : Prop := (clauseSections text).head? ≠ some []

instance (text : String) : Decidable (EndsInClause text) :=
  inferInstanceAs (Decidable (_ ≠ _))

instance (text : String) : Decidable (BeginsInClause text) :=
  inferInstanceAs (Decidable (_ ≠ _))

theorem clauseSections_ne_nil (text : String) : clauseSections text ≠ [] := by
  simp [clauseSections, List.splitOnP_ne_nil]

theorem clauseGroups_eq_filter (text : String) :
    clauseGroups text = (clauseSections text).filter fun g => !g.isEmpty := rfl

theorem flatten_clauseSections (text : String) : (clauseSections text).flatten = clauses text := by
  rw [← flatten_clauseGroups, clauseGroups_eq_filter, List.flatten_filter_not_isEmpty]

theorem clauses_joined (k : Connector) (a b : String) :
    clauses (joined k a b) = clauses a ++ clauses b := by
  rw [clauses, words_joined, clausesOf_append_connector k.isConnector_text, clauses, clauses]

theorem clauseSections_joined_or (a b : String) :
    clauseSections (joined .or a b) = clauseSections a ++ clauseSections b := by
  rw [clauseSections, words_joined, List.splitOnP_append_cons _ _ (by decide), List.map_append,
    clauseSections, clauseSections]

/-- `AND` stands in a section, so the sections on its sides are one. -/
theorem clauseSections_joined_and (a b : String) :
    clauseSections (joined .and a b) = seam (clauseSections a) (clauseSections b) := by
  obtain ⟨before, last, hlast⟩ :=
    (List.eq_nil_or_concat' _).resolve_left
      (List.splitOnP_ne_nil (fun w => decide (w = orWord)) (words a.toList))
  obtain ⟨first, behind, hfirst⟩ := List.exists_cons_of_ne_nil
    (List.splitOnP_ne_nil (fun w => decide (w = orWord)) (words b.toList))
  have hword : Connector.and.text.toList ≠ orWord := by decide
  rw [clauseSections, words_joined, splitOnP_append, List.splitOnP_cons_eq_if_modifyHead,
    if_neg (by simpa using hword), clauseSections, clauseSections, hlast, hfirst,
    List.modifyHead_cons, seam_append_cons, List.map_append, List.map_cons,
    clausesOf_append_connector Connector.and.isConnector_text, List.map_append, List.map_singleton,
    List.map_cons, seam_append_cons]

/-! ## Groups of clauses -/

theorem criterionGroups_joined_or (a b : String) :
    criterionGroups .orOfAnds (joined .or a b).toList =
      criterionGroups .orOfAnds a.toList ++ criterionGroups .orOfAnds b.toList := by
  simp only [criterionGroups_orOfAnds, clauseGroups_eq_filter, clauseSections_joined_or,
    List.filter_append]

theorem exists_sections (a b : String) :
    ∃ before last first behind, clauseSections a = before ++ [last] ∧
      clauseSections b = first :: behind ∧
      clauseSections (joined .and a b) = before ++ (last ++ first) :: behind := by
  obtain ⟨before, last, hlast⟩ :=
    (List.eq_nil_or_concat' _).resolve_left (clauseSections_ne_nil a)
  obtain ⟨first, behind, hfirst⟩ := List.exists_cons_of_ne_nil (clauseSections_ne_nil b)
  refine ⟨before, last, first, behind, hlast, hfirst, ?_⟩
  rw [clauseSections_joined_and, hlast, hfirst, seam_append_cons]

/-- With a clause on either side of it, `AND` makes two groups one. -/
theorem criterionGroups_joined_and {a b : String} (ha : EndsInClause a) (hb : BeginsInClause b) :
    criterionGroups .orOfAnds (joined .and a b).toList =
      seam (criterionGroups .orOfAnds a.toList) (criterionGroups .orOfAnds b.toList) := by
  obtain ⟨before, last, first, behind, hlast, hfirst, hjoined⟩ := exists_sections a b
  rw [EndsInClause, hlast, List.getLast?_concat, ne_eq, Option.some_inj] at ha
  rw [BeginsInClause, hfirst, List.head?_cons, ne_eq, Option.some_inj] at hb
  have hboth : last ++ first ≠ [] := List.append_ne_nil_of_left_ne_nil ha _
  simp only [criterionGroups_orOfAnds, clauseGroups_eq_filter, hlast, hfirst, hjoined,
    List.filter_append]
  rw [List.filter_cons_of_pos (by simpa using hboth), List.filter_cons_of_pos (by simpa using ha),
    List.filter_cons_of_pos (by simpa using hb), List.filter_nil, seam_append_cons]

/-- Without a clause on one side of it, `AND` is no different from `OR`. -/
theorem criterionGroups_joined_and_of_not {a b : String}
    (h : ¬ (EndsInClause a ∧ BeginsInClause b)) :
    criterionGroups .orOfAnds (joined .and a b).toList =
      criterionGroups .orOfAnds a.toList ++ criterionGroups .orOfAnds b.toList := by
  obtain ⟨before, last, first, behind, hlast, hfirst, hjoined⟩ := exists_sections a b
  rw [EndsInClause, hlast, List.getLast?_concat, BeginsInClause, hfirst, List.head?_cons] at h
  have hempty : last = [] ∨ first = [] := by
    by_contra hne
    rw [not_or] at hne
    exact h ⟨by simpa using hne.1, by simpa using hne.2⟩
  have hnil : ([[]] : List (List (List Char))).filter (fun g => !g.isEmpty) = [] := rfl
  simp only [criterionGroups_orOfAnds, clauseGroups_eq_filter, hlast, hfirst, hjoined,
    List.filter_append]
  rcases hempty with rfl | rfl
  · rw [hnil, List.append_nil, List.nil_append]
  · have hsplit : last :: behind = [last] ++ behind := rfl
    have hskip : ([] :: behind).filter (fun g => !g.isEmpty) =
        behind.filter fun g => !g.isEmpty := rfl
    rw [List.append_nil, hsplit, List.filter_append, hskip, List.append_assoc]

/-! ## Joined filters -/

/-- The criteria of both filters in one group, if there are any. -/
def both (f g : CompiledFilter) : CompiledFilter where
  groups := [f.criteria ++ g.criteria].filter fun group => !group.isEmpty

/-- The groups of the one filter and then those of the other. -/
def either (f g : CompiledFilter) : CompiledFilter where
  groups := f.groups ++ g.groups

/-- The groups of the one filter and then those of the other, with the last group of the one and the
first group of the other made one. -/
def merged (f g : CompiledFilter) : CompiledFilter where
  groups := seam f.groups g.groups

theorem criteria_both (f g : CompiledFilter) : (f.both g).criteria = f.criteria ++ g.criteria := by
  rw [both, criteria, List.flatten_filter_not_isEmpty, List.flatten_singleton]

theorem both_assoc (f g h : CompiledFilter) : (f.both g).both h = f.both (g.both h) := by
  rw [both, criteria_both, both, criteria_both, List.append_assoc]

theorem either_assoc (f g h : CompiledFilter) : (f.either g).either h = f.either (g.either h) := by
  simp only [either, List.append_assoc]

theorem merged_assoc (f g h : CompiledFilter) : (f.merged g).merged h = f.merged (g.merged h) := by
  simp only [merged, seam_assoc]

theorem either_admits {f g : CompiledFilter} (hf : f.isAlways = false) (hg : g.isAlways = false)
    (e : Entry) : (f.either g).admits e = (f.admits e || g.admits e) := by
  have hboth : (f.either g).isAlways = false := by
    simp only [isAlways, List.isEmpty_eq_false_iff, either] at hf hg ⊢
    exact List.append_ne_nil_of_left_ne_nil hf _
  rw [admits, admits, admits, hf, hg, hboth, either, List.any_append]
  simp only [Bool.false_or]

theorem either_of_isAlways_left {f : CompiledFilter} (hf : f.isAlways = true) (g : CompiledFilter) :
    f.either g = g := by
  rw [isAlways_iff_groups] at hf
  rw [either, hf, List.nil_append]

theorem either_of_isAlways_right {g : CompiledFilter} (hg : g.isAlways = true)
    (f : CompiledFilter) : f.either g = f := by
  rw [isAlways_iff_groups] at hg
  rw [either, hg, List.append_nil]

/-! ## Compiling joined texts -/

variable {connectives : Connectives} {k : Connector} {a b text : String} {f g : CompiledFilter}

theorem ofText_eq_ok_of_readsAs {groups : List (List Criterion)}
    (h : List.Forall₂ (List.Forall₂ ReadsAs) (criterionGroups connectives text.toList) groups) :
    ofText connectives text = .ok { groups } := by
  rw [ofText, readGroups_eq_ok_iff.2 h]
  rfl

theorem exists_ok_iff :
    (∃ f, ofText connectives text = .ok f) ↔ ∃ cs, readAll (clauses text) = .ok cs := by
  rw [← map_criteria_ofText connectives]
  cases ofText connectives text <;> simp [Except.map]

theorem exists_ok_joined_iff : (∃ h, ofText connectives (joined k a b) = .ok h) ↔
    (∃ f, ofText connectives a = .ok f) ∧ ∃ g, ofText connectives b = .ok g := by
  simp only [exists_ok_iff, clauses_joined, readAll_append]
  cases readAll (clauses a) with
  | error e => simp [Except.bind]
  | ok cs => cases readAll (clauses b) <;> simp [Except.bind, Except.map]

theorem ofText_joined_of_error {e : FilterError} (ha : ofText connectives a = .error e) :
    ofText connectives (joined k a b) = .error e := by
  rw [ofText_eq_error_iff, ← readAll_eq_error_iff] at ha ⊢
  rw [clauses_joined, readAll_append, ha]
  rfl

theorem ofText_joined_of_ok_error {e : FilterError} (ha : ofText connectives a = .ok f)
    (hb : ofText connectives b = .error e) : ofText connectives (joined k a b) = .error e := by
  rw [ofText_eq_error_iff, ← readAll_eq_error_iff] at hb ⊢
  have hreads : readAll (clauses a) = .ok f.criteria := readAll_eq_ok_iff.2 (readsAs_criteria ha)
  rw [clauses_joined, readAll_append, hreads, hb]
  rfl

theorem readsAs_group {ts : List (List Char)} {cs : List Criterion}
    (h : List.Forall₂ ReadsAs ts cs) :
    List.Forall₂ (List.Forall₂ ReadsAs) ([ts].filter fun g => !g.isEmpty)
      ([cs].filter fun g => !g.isEmpty) := by
  cases h with
  | nil => exact .nil
  | cons hfirst hrest => exact .cons (.cons hfirst hrest) .nil

theorem ofText_legacy_of_readsAs {cs : List Criterion}
    (h : List.Forall₂ ReadsAs (clauses text) cs) :
    ofText .legacy text = .ok { groups := [cs].filter fun group => !group.isEmpty } := by
  refine ofText_eq_ok_of_readsAs ?_
  rw [criterionGroups_legacy]
  exact readsAs_group h

theorem ofText_legacy_joined (ha : ofText .legacy a = .ok f) (hb : ofText .legacy b = .ok g) :
    ofText .legacy (joined k a b) = .ok (f.both g) := by
  refine ofText_legacy_of_readsAs ?_
  rw [clauses_joined]
  exact List.rel_append (readsAs_criteria ha) (readsAs_criteria hb)

theorem both_admits (ha : ofText .legacy a = .ok f) (hb : ofText .legacy b = .ok g) (e : Entry) :
    (f.both g).admits e = (f.admits e && g.admits e) := by
  have hjoined : ofText .legacy (joined .and a b) = .ok (f.both g) := ofText_legacy_joined ha hb
  rw [Bool.eq_iff_iff, Bool.and_eq_true, legacy_admits_iff hjoined, legacy_admits_iff ha,
    legacy_admits_iff hb, clauses_joined, List.forall_mem_append]

theorem ofText_joined_or (ha : ofText .orOfAnds a = .ok f) (hb : ofText .orOfAnds b = .ok g) :
    ofText .orOfAnds (joined .or a b) = .ok (f.either g) := by
  refine ofText_eq_ok_of_readsAs ?_
  rw [criterionGroups_joined_or]
  exact List.rel_append (readsAs_groups ha) (readsAs_groups hb)

theorem ofText_joined_and (ha : ofText .orOfAnds a = .ok f) (hb : ofText .orOfAnds b = .ok g)
    (hends : EndsInClause a) (hbegins : BeginsInClause b) :
    ofText .orOfAnds (joined .and a b) = .ok (f.merged g) := by
  refine ofText_eq_ok_of_readsAs ?_
  rw [criterionGroups_joined_and hends hbegins]
  exact forall₂_seam (readsAs_groups ha) (readsAs_groups hb)

theorem ofText_joined_and_of_not (ha : ofText .orOfAnds a = .ok f)
    (hb : ofText .orOfAnds b = .ok g) (h : ¬ (EndsInClause a ∧ BeginsInClause b)) :
    ofText .orOfAnds (joined .and a b) = .ok (f.either g) := by
  refine ofText_eq_ok_of_readsAs ?_
  rw [criterionGroups_joined_and_of_not h]
  exact List.rel_append (readsAs_groups ha) (readsAs_groups hb)

theorem clauses_ne_nil_of_endsInClause (h : EndsInClause text) : clauses text ≠ [] := by
  obtain ⟨before, last, hlast⟩ :=
    (List.eq_nil_or_concat' _).resolve_left (clauseSections_ne_nil text)
  rw [EndsInClause, hlast, List.getLast?_concat, ne_eq, Option.some_inj] at h
  rw [← flatten_clauseSections, hlast, List.flatten_concat]
  exact List.append_ne_nil_of_right_ne_nil _ h

theorem clauses_ne_nil_of_beginsInClause (h : BeginsInClause text) : clauses text ≠ [] := by
  obtain ⟨first, behind, hfirst⟩ := List.exists_cons_of_ne_nil (clauseSections_ne_nil text)
  rw [BeginsInClause, hfirst, List.head?_cons, ne_eq, Option.some_inj] at h
  rw [← flatten_clauseSections, hfirst, List.flatten_cons]
  exact List.append_ne_nil_of_left_ne_nil h _

/-- The two groups that a seam makes one, and the groups that stay as they are. -/
theorem exists_merged_groups (ha : ofText .orOfAnds a = .ok f) (hb : ofText .orOfAnds b = .ok g)
    (hends : EndsInClause a) (hbegins : BeginsInClause b) :
    ∃ before last first behind, f.groups = before ++ [last] ∧ g.groups = first :: behind ∧
      (f.merged g).groups = before ++ (last ++ first) :: behind := by
  have hf : f.groups ≠ [] := fun h =>
    clauses_ne_nil_of_endsInClause hends ((groups_eq_nil_iff ha).1 h)
  have hg : g.groups ≠ [] := fun h =>
    clauses_ne_nil_of_beginsInClause hbegins ((groups_eq_nil_iff hb).1 h)
  obtain ⟨before, last, hlast⟩ := (List.eq_nil_or_concat' _).resolve_left hf
  obtain ⟨first, behind, hfirst⟩ := List.exists_cons_of_ne_nil hg
  refine ⟨before, last, first, behind, hlast, hfirst, ?_⟩
  rw [merged, hlast, hfirst, seam_append_cons]

/-! ## The law -/

/-- What two filter texts with a connector between them compile to. -/
structure Composes (a b : String) : Prop where
  succeeds_iff : ∀ connectives k, (∃ h, ofText connectives (joined k a b) = .ok h) ↔
    (∃ f, ofText connectives a = .ok f) ∧ ∃ g, ofText connectives b = .ok g
  fails_first : ∀ connectives k error, ofText connectives a = .error error →
    ofText connectives (joined k a b) = .error error
  fails_second : ∀ connectives k f error, ofText connectives a = .ok f →
    ofText connectives b = .error error → ofText connectives (joined k a b) = .error error
  /-- Under the legacy reading both filters have to hold, whatever the connector. -/
  legacy : ∀ k f g, ofText .legacy a = .ok f → ofText .legacy b = .ok g →
    ofText .legacy (joined k a b) = .ok (f.both g) ∧
      ∀ e, (f.both g).admits e = (f.admits e && g.admits e)
  /-- `OR` puts the groups one behind the other. -/
  or : ∀ f g, ofText .orOfAnds a = .ok f → ofText .orOfAnds b = .ok g →
    ofText .orOfAnds (joined .or a b) = .ok (f.either g)
  or_admits : ∀ f g, ofText .orOfAnds a = .ok f → ofText .orOfAnds b = .ok g →
    f.isAlways = false → g.isAlways = false →
      ∀ e, (f.either g).admits e = (f.admits e || g.admits e)
  /-- A filter without criteria changes nothing. -/
  or_always : ∀ f g : CompiledFilter,
    (f.isAlways = true → f.either g = g) ∧ (g.isAlways = true → f.either g = f)
  /-- `AND` between two clauses makes the last group of the one and the first group of the other
  one group, and keeps all others. -/
  and : ∀ f g, ofText .orOfAnds a = .ok f → ofText .orOfAnds b = .ok g →
    EndsInClause a → BeginsInClause b →
      ofText .orOfAnds (joined .and a b) = .ok (f.merged g) ∧
        ∃ before last first behind, f.groups = before ++ [last] ∧ g.groups = first :: behind ∧
          (f.merged g).groups = before ++ (last ++ first) :: behind
  /-- Beside a section without clauses `AND` joins like `OR`. -/
  and_apart : ∀ f g, ofText .orOfAnds a = .ok f → ofText .orOfAnds b = .ok g →
    ¬ (EndsInClause a ∧ BeginsInClause b) →
      ofText .orOfAnds (joined .and a b) = .ok (f.either g)

/-- The order in which texts or filters are joined does not matter. -/
structure JoinsAssociate : Prop where
  texts : ∀ k l a b c, joined l (joined k a b) c = joined k a (joined l b c)
  both : ∀ f g h : CompiledFilter, (f.both g).both h = f.both (g.both h)
  either : ∀ f g h : CompiledFilter, (f.either g).either h = f.either (g.either h)
  merged : ∀ f g h : CompiledFilter, (f.merged g).merged h = f.merged (g.merged h)

/-- **Filter texts compose.** What two texts with a connector between them compile to is made from
what each compiles to, and it does not matter in which order texts are joined. -/
theorem joined_composes : (∀ a b, Composes a b) ∧ JoinsAssociate where
  left _ _ :=
    { succeeds_iff := fun _ _ => exists_ok_joined_iff
      fails_first := fun _ _ _ ha => ofText_joined_of_error ha
      fails_second := fun _ _ _ _ ha hb => ofText_joined_of_ok_error ha hb
      legacy := fun _ _ _ ha hb => ⟨ofText_legacy_joined ha hb, both_admits ha hb⟩
      or := fun _ _ ha hb => ofText_joined_or ha hb
      or_admits := fun _ _ _ _ hf hg => either_admits hf hg
      or_always := fun f g =>
        ⟨fun hf => either_of_isAlways_left hf g, fun hg => either_of_isAlways_right hg f⟩
      and := fun _ _ ha hb hends hbegins =>
        ⟨ofText_joined_and ha hb hends hbegins, exists_merged_groups ha hb hends hbegins⟩
      and_apart := fun _ _ ha hb h => ofText_joined_and_of_not ha hb h }
  right :=
    { texts := fun k l a b c => joined_assoc k l a b c
      both := both_assoc
      either := either_assoc
      merged := merged_assoc }

/-- Of the groups on either side of `AND` the nearest become one. -/
theorem joined_composes_twoGroups :
    let level : Criterion := { field := .level, value := .text "a" }
    let user : Criterion := { field := .user, value := .text "b" }
    let size : Criterion := { field := .size, value := .integer 1 }
    ofText .orOfAnds (joined .and "Level=a OR User=b" "Size=1 OR Level=a") =
      .ok { groups := [[level], [user, size], [level]] } := by
  intro level user size
  exact ((joined_composes.1 "Level=a OR User=b" "Size=1 OR Level=a").and
    { groups := [[level], [user]] } { groups := [[size], [level]] } (by decide +kernel)
    (by decide +kernel) (by decide +kernel) (by decide +kernel)).1

/-- Behind a word `OR` there is no group for `AND` to join. -/
theorem joined_and_behind_or :
    let f : CompiledFilter := { groups := [[{ field := .level, value := .text "a" }]] }
    let g : CompiledFilter := { groups := [[{ field := .user, value := .text "b" }]] }
    ofText .orOfAnds "Level=a OR" = .ok f ∧ ofText .orOfAnds "User=b" = .ok g ∧
      ofText .orOfAnds (joined .and "Level=a OR" "User=b") = .ok (f.either g) ∧
      f.either g ≠ f.merged g := by
  decide +kernel

end CompiledFilter

end LogDigest
