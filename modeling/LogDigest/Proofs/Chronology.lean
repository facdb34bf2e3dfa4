import LogDigest.Calendar.Timestamp

/-!
# The order of timestamps

Timestamps are compared by their numbers, the largest unit first. This is a linear order, and the
lesser and the greater of two timestamps are what they should be, because the numbers of a timestamp
determine it (`Timestamp.units_inj`).
-/

namespace LogDigest

theorem Date.eq_of_numbers {d e : Date} (hyear : d.year = e.year) (hmonth : d.month = e.month)
    (hday : d.day = e.day) : d = e := by
  cases d
  cases e
  cases hyear
  cases hmonth
  cases hday
  rfl

theorem Time.eq_of_numbers {t u : Time} (hsecond : t.secondOfDay = u.secondOfDay)
    (hnanos : t.nanosBeyond = u.nanosBeyond) : t = u := by
  cases t
  cases u
  cases hsecond
  cases hnanos
  rfl

namespace Timestamp

variable {t u v : Timestamp}

theorem units_inj : t.units = u.units ↔ t = u := by
  constructor
  · intro h
    simp only [units, List.cons.injEq, Int.natCast_inj, and_true] at h
    obtain ⟨hyear, hmonth, hday, hsecond, hnanos⟩ := h
    have hdate : t.date = u.date := Date.eq_of_numbers hyear hmonth hday
    have htime : t.time = u.time := Time.eq_of_numbers hsecond hnanos
    cases t
    cases u
    cases hdate
    cases htime
    rfl
  · rintro rfl
    rfl

-- The order of lists here is that of the core library, whatever is imported beside this module.
attribute [local instance (high)] List.instLE

/-- Timestamps are ordered as the lists of their numbers. -/
theorem le_iff_units : t ≤ u ↔ t.units ≤ u.units := Iff.rfl

protected theorem le_refl (t : Timestamp) : t ≤ t := le_iff_units.2 (List.le_refl t.units)

protected theorem le_trans (htu : t ≤ u) (huv : u ≤ v) : t ≤ v :=
  le_iff_units.2 (List.le_trans (le_iff_units.1 htu) (le_iff_units.1 huv))

protected theorem le_antisymm (htu : t ≤ u) (hut : u ≤ t) : t = u :=
  units_inj.1 (List.le_antisymm (le_iff_units.1 htu) (le_iff_units.1 hut))

protected theorem le_total (t u : Timestamp) : t ≤ u ∨ u ≤ t := List.le_total t.units u.units

instance : Std.IsLinearOrder Timestamp where
  le_refl := Timestamp.le_refl
  le_trans _ _ _ := Timestamp.le_trans
  le_antisymm _ _ := Timestamp.le_antisymm
  le_total := Timestamp.le_total

theorem min_eq_left (h : t ≤ u) : min t u = t := if_pos h

theorem min_eq_right (h : u ≤ t) : min t u = u := by
  by_cases htu : t ≤ u
  · rw [min_eq_left htu, Timestamp.le_antisymm htu h]
  · exact if_neg htu

theorem max_eq_right (h : t ≤ u) : max t u = u := if_pos h

theorem max_eq_left (h : u ≤ t) : max t u = t := by
  by_cases htu : t ≤ u
  · rw [max_eq_right htu, Timestamp.le_antisymm htu h]
  · exact if_neg htu

instance : Std.LawfulOrderMin Timestamp where
  min_eq_or t u := by
    rcases t.le_total u with h | h
    · exact Or.inl (min_eq_left h)
    · exact Or.inr (min_eq_right h)
  le_min_iff t u v := by
    rcases u.le_total v with h | h
    · rw [min_eq_left h]
      exact ⟨fun htu => ⟨htu, Timestamp.le_trans htu h⟩, And.left⟩
    · rw [min_eq_right h]
      exact ⟨fun htv => ⟨Timestamp.le_trans htv h, htv⟩, And.right⟩

instance : Std.LawfulOrderMax Timestamp where
  max_eq_or t u := by
    rcases t.le_total u with h | h
    · exact Or.inr (max_eq_right h)
    · exact Or.inl (max_eq_left h)
  max_le_iff t u v := by
    rcases t.le_total u with h | h
    · rw [max_eq_right h]
      exact ⟨fun huv => ⟨Timestamp.le_trans h huv, huv⟩, And.right⟩
    · rw [max_eq_left h]
      exact ⟨fun htv => ⟨htv, Timestamp.le_trans h htv⟩, And.left⟩

end Timestamp

end LogDigest
