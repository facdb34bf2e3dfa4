import LogDigest.Proofs.Stamp.Kinds

/-!
# Only month and day can be taken for each other

Two forms of log files that read one text give the same timestamp, unless one of them is a
month-first form and the other its day-first form. So the forms may be tried in any order in which
month first comes before day first (`Timestamp.ofText?_unambiguous`).

**Pairs.** Both forms have to be of the text's kind, so only four pairs are left. Two of them are
the month-first forms with their day-first forms. In the other two a form with an optional fraction
stands beside the same form without one, and where no fraction is left to be read they agree
(`Pattern.read_append_fraction`).

**Orders.** Whatever the order, only the forms of the text's kind count. These are one form, or two
that agree, or a month-first form before its day-first form.
-/

namespace LogDigest

open Text

/-! ## Optional fractions -/

namespace Pattern

variable {p : Pattern} {r r' : LogDigest.Reading} {s : List Char}

/-- What a pattern reads leaves nothing to the items behind it. -/
theorem readFrom_append (q : Pattern) (h : p.readFrom r s = .ok r') :
    readFrom (p ++ q) r s = readFrom q r' [] := by
  induction p generalizing r s with
  | nil =>
    cases s with
    | nil =>
      cases h
      rfl
    | cons c s => cases h
  | cons item p ih =>
    rw [readFrom] at h
    obtain ⟨⟨r₁, rest⟩, hitem, h⟩ := exists_of_bind_ok h
    rw [List.cons_append, readFrom_cons hitem]
    exact ih h

/-- A text without a fraction is read alike where a fraction may stand behind it. -/
theorem read_append_fraction {t : Timestamp} (h : (p.read s).toOption = some t) :
    (Pattern.read (p ++ [.fraction]) s).toOption = some t := by
  rw [read] at h ⊢
  cases hread : p.readFrom {} s with
  | error e =>
    rw [hread] at h
    cases h
  | ok r =>
    rw [hread] at h
    rw [readFrom_append [.fraction] hread]
    exact h

end Pattern

namespace StampForm

/-! ## Pairs of forms -/

/-- The month-first forms with their day-first forms. -/
def monthFirstPairs : List (StampForm × StampForm) :=
  [({ pattern := .monthFirst }, { pattern := .dayFirst }),
   ({ pattern := .monthFirstDate }, { pattern := .dayFirstDate })]

/-- Forms of which one is a month-first form and the other its day-first form. -/
def AreCounterparts (f g : StampForm) : Prop :=
  (f, g) ∈ monthFirstPairs ∨ (g, f) ∈ monthFirstPairs

variable {f g : StampForm} {s : List Char} {t u : Timestamp}

/-- Year first, what is read to the second is read with an optional fraction too. -/
theorem read?_yearFirstFraction
    (h : read? { pattern := .yearFirstSecond, uniform := true } s = some t) :
    read? { pattern := .yearFirstFraction, uniform := true } s = some t :=
  Pattern.read_append_fraction h

/-- With points, what is read to the second is read with an optional fraction too. -/
theorem read?_pointedFraction (h : read? { pattern := .pointedSecond } s = some t) :
    read? { pattern := .pointedFraction } s = some t :=
  Pattern.read_append_fraction h

/-- Two forms agree if the one reads whatever the other reads, and reads it alike. -/
theorem agree_of_mem_pair {f₁ f₂ : StampForm} (h : ∀ v, f₂.read? s = some v → f₁.read? s = some v)
    (hf : f ∈ [f₁, f₂]) (hg : g ∈ [f₁, f₂]) (ht : f.read? s = some t) (hu : g.read? s = some u) :
    t = u := by
  have hfirst : ∀ {e : StampForm} {v : Timestamp}, e ∈ [f₁, f₂] → e.read? s = some v →
      f₁.read? s = some v := by
    intro e v he hv
    rcases List.mem_cons.1 he with rfl | he
    · exact hv
    · rw [List.mem_singleton.1 he] at hv
      exact h v hv
  exact Option.some.inj ((hfirst hf ht).symm.trans (hfirst hg hu))

/-- Forms of one kind agree on a text that both read, unless they are counterparts. -/
theorem agree_of_mem_forms {kind : StampKind} (hf : f ∈ kind.forms) (hg : g ∈ kind.forms)
    (ht : f.read? s = some t) (hu : g.read? s = some u) : t = u ∨ AreCounterparts f g := by
  have hsame : f = g → t = u := by
    rintro rfl
    exact Option.some.inj (ht.symm.trans hu)
  cases kind with
  | standard | commonLog | yearFirstMinute | halfDay | yearFirstDate =>
    exact Or.inl (hsame ((List.mem_singleton.1 hf).trans (List.mem_singleton.1 hg).symm))
  | slashed | slashedDate =>
    simp only [StampKind.forms, List.mem_cons, List.not_mem_nil, or_false] at hf hg
    rcases hf with rfl | rfl <;> rcases hg with rfl | rfl
    · exact Or.inl (hsame rfl)
    · exact Or.inr (Or.inl (by decide))
    · exact Or.inr (Or.inr (by decide))
    · exact Or.inl (hsame rfl)
  | yearFirst => exact Or.inl (agree_of_mem_pair (fun _ => read?_yearFirstFraction) hf hg ht hu)
  | pointed => exact Or.inl (agree_of_mem_pair (fun _ => read?_pointedFraction) hf hg ht hu)

/-- Two forms of log files agree on a text that both read, unless they are counterparts. -/
theorem agree_of_read? (hf : f ∈ all) (hg : g ∈ all) (ht : f.read? s = some t)
    (hu : g.read? s = some u) : t = u ∨ AreCounterparts f g :=
  agree_of_mem_forms (mem_forms_of_read? hf ht) (mem_forms_of_read? hg hu) ht hu

/-! ## Orders of the forms -/

/-- Every month-first form stands before its day-first form. -/
def MonthFirst (forms : List StampForm) : Prop :=
  ∀ pair ∈ monthFirstPairs, [pair.1, pair.2].Sublist forms

theorem eq_or_eq_of_perm_pair {α : Type} {a b : α} {l : List α} (h : l.Perm [a, b]) :
    l = [a, b] ∨ l = [b, a] := by
  match l, h.length_eq with
  | [x, y], _ =>
    rcases List.mem_cons.1 (h.mem_iff.1 List.mem_cons_self) with rfl | hx
    · have hy := List.perm_singleton.1 ((List.perm_cons x).1 h)
      exact Or.inl (by rw [hy])
    · obtain rfl := List.mem_singleton.1 hx
      have hy := List.perm_singleton.1 ((List.perm_cons x).1 (h.trans (List.Perm.swap x a [])))
      exact Or.inr (by rw [hy])

/-- A form that reads whatever another one reads decides, whichever is tried first. -/
theorem findSome?_pair (h : ∀ v, g.read? s = some v → f.read? s = some v) :
    [f, g].findSome? (·.read? s) = f.read? s ∧ [g, f].findSome? (·.read? s) = f.read? s := by
  simp only [List.findSome?_cons, List.findSome?_nil]
  cases hg : g.read? s with
  | none => cases f.read? s <;> exact ⟨rfl, rfl⟩
  | some v =>
    rw [h v hg]
    exact ⟨rfl, rfl⟩

/-- A kind with a month-first form has its day-first form besides, and no other. -/
theorem forms_eq_of_mem {kind : StampKind} {pair : StampForm × StampForm}
    (hpair : pair ∈ monthFirstPairs) (h : pair.1 ∈ kind.forms) :
    kind.forms = [pair.1, pair.2] := by
  have hall : ∀ pair ∈ monthFirstPairs, pair.1 ∈ kind.forms → kind.forms = [pair.1, pair.2] := by
    cases kind <;> decide
  exact hall pair hpair h

/-- Of the forms of one kind only the order of counterparts counts. -/
theorem findSome?_of_perm_forms {kind : StampKind} {forms : List StampForm}
    (hperm : forms.Perm kind.forms)
    (hfirst : ∀ pair ∈ monthFirstPairs, pair.1 ∈ kind.forms → [pair.1, pair.2].Sublist forms)
    (s : List Char) : forms.findSome? (·.read? s) = kind.forms.findSome? (·.read? s) := by
  -- Counterparts are all that their kind has, so their order is that of the whole list.
  have hcounterparts : ∀ pair ∈ monthFirstPairs, pair.1 ∈ kind.forms → forms = kind.forms := by
    intro pair hpair hmem
    have hforms := forms_eq_of_mem hpair hmem
    rw [hforms] at hperm ⊢
    exact ((hfirst pair hpair hmem).eq_of_length hperm.length_eq.symm).symm
  cases kind with
  | standard | commonLog | yearFirstMinute | halfDay | yearFirstDate =>
    rw [List.perm_singleton.1 hperm]
    rfl
  | slashed => rw [hcounterparts (_, _) List.mem_cons_self (by decide)]
  | slashedDate =>
    rw [hcounterparts (_, _) (List.mem_cons_of_mem _ List.mem_cons_self) (by decide)]
  | yearFirst =>
    rcases eq_or_eq_of_perm_pair hperm with rfl | rfl
    · rfl
    · obtain ⟨hfirst, hsecond⟩ := findSome?_pair (s := s) fun _ => read?_yearFirstFraction
      exact hsecond.trans hfirst.symm
  | pointed =>
    rcases eq_or_eq_of_perm_pair hperm with rfl | rfl
    · rfl
    · obtain ⟨hfirst, hsecond⟩ := findSome?_pair (s := s) fun _ => read?_pointedFraction
      exact hsecond.trans hfirst.symm

/-- Any order of the forms in which month first comes before day first reads every text alike. -/
theorem findSome?_of_perm {forms : List StampForm} (hperm : forms.Perm all)
    (hfirst : MonthFirst forms) (s : List Char) :
    forms.findSome? (·.read? s) = all.findSome? (·.read? s) := by
  rw [findSome?_read? (fun _ h => hperm.mem_iff.1 h), findSome?_read? (fun _ h => h),
    StampKind.filter_forms]
  refine findSome?_of_perm_forms ?_ (fun pair hpair hmem => ?_) s
  · have hkept := hperm.filter ((StampKind.ofText s).forms.contains ·)
    rwa [StampKind.filter_forms] at hkept
  · have hkept : [pair.1, pair.2].filter ((StampKind.ofText s).forms.contains ·) =
        [pair.1, pair.2] := by
      rw [← forms_eq_of_mem hpair hmem, List.filter_eq_self]
      exact fun _ => List.contains_iff_mem.2
    rw [← hkept]
    exact (hfirst pair hpair).filter _

end StampForm

/-- **Only month and day can be taken for each other.** Two forms that read one text give the same
timestamp, unless one is a month-first form and the other its day-first form. So any order of the
forms in which month first comes before day first reads every text alike. -/
theorem Timestamp.ofText?_unambiguous (s : List Char) :
    (∀ f ∈ StampForm.all, ∀ g ∈ StampForm.all, ∀ t u : Timestamp,
      f.read? (trim s) = some t → g.read? (trim s) = some u →
        t = u ∨ StampForm.AreCounterparts f g) ∧
      ∀ forms : List StampForm, forms.Perm StampForm.all → StampForm.MonthFirst forms →
        forms.findSome? (fun form => form.read? (trim s)) = ofText? s := by
  constructor
  · intro f hf g hg t u ht hu
    exact StampForm.agree_of_read? hf hg ht hu
  · intro forms hperm hfirst
    exact StampForm.findSome?_of_perm hperm hfirst (trim s)

/-- The bare dates first, and seconds before fractions. -/
def StampForm.datesFirst : List StampForm :=
  [{ pattern := .monthFirstDate }, { pattern := .dayFirstDate }, { pattern := .yearFirstDate },
   { pattern := .pointedSecond }, { pattern := .pointedFraction },
   { pattern := .monthFirstHalfDay }, { pattern := .monthFirst }, { pattern := .dayFirst },
   { pattern := .yearFirstMinute, uniform := true },
   { pattern := .yearFirstSecond, uniform := true },
   { pattern := .yearFirstFraction, uniform := true }, { pattern := .commonLog },
   { pattern := .standard }]

/-- The second of January month first, and the first of February day first. -/
theorem Timestamp.ofText?_unambiguous_datesFirst :
    StampForm.datesFirst.Perm StampForm.all ∧ StampForm.MonthFirst StampForm.datesFirst ∧
      StampForm.AreCounterparts { pattern := .monthFirst } { pattern := .dayFirst } ∧
      ∃ t u,
        StampForm.read? { pattern := .monthFirst } (trim " 1/02/2024 8:00:00".toList) = some t ∧
        StampForm.read? { pattern := .dayFirst } (trim " 1/02/2024 8:00:00".toList) = some u ∧
          t.exact = "2024-01-02 08:00:00" ∧ u.exact = "2024-02-01 08:00:00" ∧
            StampForm.datesFirst.findSome?
                (fun form => form.read? (trim " 1/02/2024 8:00:00".toList)) = some t ∧
              ofText? " 1/02/2024 8:00:00".toList = some t := by
  have hperm : StampForm.datesFirst.Perm StampForm.all := by decide
  have hfirst : StampForm.MonthFirst StampForm.datesFirst := by
    have h : ∀ pair ∈ StampForm.monthFirstPairs,
        [pair.1, pair.2].Sublist StampForm.datesFirst := by decide
    exact h
  have hmonth : (StampForm.read? { pattern := .monthFirst }
      (trim " 1/02/2024 8:00:00".toList)).map exact = some "2024-01-02 08:00:00" := by decide
  have hday : (StampForm.read? { pattern := .dayFirst }
      (trim " 1/02/2024 8:00:00".toList)).map exact = some "2024-02-01 08:00:00" := by decide
  have hsame : ofText? " 1/02/2024 8:00:00".toList =
      StampForm.read? { pattern := .monthFirst } (trim " 1/02/2024 8:00:00".toList) := by decide
  obtain ⟨t, ht, htext⟩ := Option.map_eq_some_iff.1 hmonth
  obtain ⟨u, hu, hutext⟩ := Option.map_eq_some_iff.1 hday
  obtain ⟨hpairs, horders⟩ := ofText?_unambiguous " 1/02/2024 8:00:00".toList
  have hne : t ≠ u := by
    rintro rfl
    exact absurd (htext.symm.trans hutext) (by decide)
  have hcounterparts :
      StampForm.AreCounterparts { pattern := .monthFirst } { pattern := .dayFirst } :=
    (hpairs _ (by decide) _ (by decide) _ _ ht hu).resolve_left hne
  rw [ht] at hsame
  exact ⟨hperm, hfirst, hcounterparts, t, u, ht, hu, htext, hutext,
    (horders _ hperm hfirst).trans hsame, hsame⟩

end LogDigest
