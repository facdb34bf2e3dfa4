import LogDigest.Calendar.Format
import LogDigest.Proofs.Words

/-!
# Written numerals

What is known of the digits of a numeral, with leading zeros or without them: they are ASCII
digits, their value is the number, and their count is the width if the number fits.

A reader of digits stops at the first character that is none. So a fact about reading has the rest
of the text as a variable, and asks that the rest does not go on with a digit (`NoDigitNext`).
-/

namespace LogDigest.Text

-- The powers here are those of the core library, whatever is imported beside this module.
attribute [local instance (high)] instPowNat

/-! ## Digits and what follows them -/

/-- The text does not go on with a digit. -/
def NoDigitNext (s : List Char) : Prop := ∀ c ∈ s.head?, c.isDigit = false

theorem noDigitNext_nil : NoDigitNext [] := endsRun_nil

theorem noDigitNext_cons {c : Char} (h : c.isDigit = false) (s : List Char) :
    NoDigitNext (c :: s) :=
  endsRun_cons h s

theorem takeWhile_isDigit_append {ds s : List Char} (hds : ∀ c ∈ ds, c.isDigit = true)
    (hs : NoDigitNext s) : (ds ++ s).takeWhile Char.isDigit = ds :=
  takeWhile_append_of_endsRun hds hs

theorem dropWhile_isDigit_append {ds s : List Char} (hds : ∀ c ∈ ds, c.isDigit = true)
    (hs : NoDigitNext s) : (ds ++ s).dropWhile Char.isDigit = s :=
  dropWhile_append_of_endsRun hds hs

theorem isBlank_of_isDigit {c : Char} (h : c.isDigit = true) : isBlank c = false := by
  obtain ⟨hlow, hhigh⟩ := Char.isDigit_iff_toNat.1 h
  have hlow : 48 ≤ c.toNat := hlow
  have hhigh : c.toNat ≤ 57 := hhigh
  simp only [isBlank, inRanges, blankRanges, List.any_cons, List.any_nil, Bool.or_false,
    Bool.or_eq_false_iff, Bool.and_eq_false_iff, decide_eq_false_iff_not]
  omega

theorem trimLeft_append_of_digits {ds : List Char} (hne : ds ≠ [])
    (hds : ∀ c ∈ ds, c.isDigit = true) (s : List Char) : trimLeft (ds ++ s) = ds ++ s := by
  cases ds with
  | nil => exact absurd rfl hne
  | cons c ds =>
    have hblank := isBlank_of_isDigit (hds c List.mem_cons_self)
    rw [trimLeft, List.cons_append, List.dropWhile_cons_of_neg (by simp [hblank])]

/-! ## The digits of a number -/

theorem isDigit_of_mem_toDigits {n : Nat} {c : Char} (h : c ∈ Nat.toDigits 10 n) :
    c.isDigit = true := Nat.isDigit_of_mem_toDigits (by decide) (by decide) h

/-- A numeral opens with a digit, and with a zero only if the number is zero. -/
theorem toDigits_eq_cons (n : Nat) :
    ∃ c ds, Nat.toDigits 10 n = c :: ds ∧ c.isDigit = true ∧ (n ≠ 0 → c ≠ '0') := by
  induction n using Nat.strongRecOn with
  | ind n ih =>
    by_cases hsmall : n < 10
    · have hall : ∀ n < 10, n.digitChar.isDigit = true ∧ (n ≠ 0 → n.digitChar ≠ '0') := by decide
      exact ⟨_, [], Nat.toDigits_of_lt_base hsmall, hall n hsmall⟩
    · obtain ⟨c, ds, hds, hdigit, hzero⟩ := ih (n / 10) (by omega)
      refine ⟨c, ds ++ [(n % 10).digitChar], ?_, hdigit, fun _ => hzero (by omega)⟩
      rw [Nat.toDigits_of_base_le (by decide) (by omega), hds, List.cons_append]

theorem isDigit_of_mem_padded {width n : Nat} :
    ∀ c ∈ (padded width n).toList, c.isDigit = true := by
  intro c h
  rw [padded, String.toList_ofList, List.mem_append] at h
  rcases h with h | h
  · rw [List.eq_of_mem_replicate h]
    decide
  · exact isDigit_of_mem_toDigits h

theorem ofDigitChars_padded (width n : Nat) :
    Nat.ofDigitChars 10 (padded width n).toList 0 = n := by
  rw [padded, String.toList_ofList, Nat.ofDigitChars_append, Nat.ofDigitChars_replicate_zero,
    Nat.mul_zero, Nat.ofDigitChars_ten_toDigits]

theorem length_padded {width n : Nat} (hwidth : 0 < width) (h : n < 10 ^ width) :
    (padded width n).toList.length = width := by
  have hle : (Nat.toDigits 10 n).length ≤ width :=
    (Nat.length_toDigits_le_iff (by decide) hwidth).2 h
  rw [padded, String.toList_ofList, List.length_append, List.length_replicate]
  omega

theorem padded_ne_nil (width n : Nat) : (padded width n).toList ≠ [] := by
  rw [padded, String.toList_ofList]
  exact List.append_ne_nil_of_right_ne_nil _ Nat.toDigits_ne_nil

theorem isWord_padded (width n : Nat) : IsWord (padded width n).toList :=
  ⟨padded_ne_nil width n, fun c hc => isBlank_of_isDigit (isDigit_of_mem_padded c hc)⟩

/-! ## Integers -/

theorem toList_toString_ofNat (n : Nat) : (toString (Int.ofNat n)).toList = Nat.toDigits 10 n := by
  have hrepr : toString (Int.ofNat n) = n.repr := rfl
  rw [hrepr, Nat.repr_eq_ofList_toDigits, String.toList_ofList]

theorem toList_toString_negSucc (n : Nat) :
    (toString (Int.negSucc n)).toList = '-' :: Nat.toDigits 10 (n + 1) := by
  have hrepr : toString (Int.negSucc n) = "-" ++ (n + 1).repr := rfl
  have hminus : "-".toList = ['-'] := rfl
  rw [hrepr, String.toList_append, hminus, Nat.repr_eq_ofList_toDigits, String.toList_ofList,
    List.singleton_append]

theorem digits?_toDigits (n : Nat) : digits? (Nat.toDigits 10 n) = some n := by
  obtain ⟨c, ds, hds, -⟩ := toDigits_eq_cons n
  have hall : (Nat.toDigits 10 n).all Char.isDigit = true :=
    List.all_eq_true.2 fun c hc => isDigit_of_mem_toDigits hc
  have hempty : (Nat.toDigits 10 n).isEmpty = false := by rw [hds, List.isEmpty_cons]
  rw [digits?, hall, hempty, Nat.ofDigitChars_ten_toDigits]
  rfl

theorem natural?_cons {c : Char} (hplus : c ≠ '+') (s : List Char) :
    natural? (c :: s) = digits? (c :: s) := by
  rw [natural?.eq_def]
  split
  · rename_i heq
    cases heq
    exact absurd rfl hplus
  · rfl

/-- A numeral without a sign is read by its digits. -/
theorem integer?_cons {c : Char} (hminus : c ≠ '-') (hplus : c ≠ '+') (s : List Char) :
    integer? (c :: s) = (digits? (c :: s)).map Int.ofNat := by
  rw [integer?.eq_def]
  split
  · rename_i heq
    cases heq
    exact absurd rfl hminus
  · rw [natural?_cons hplus]

theorem integer?_toString (n : Int) : integer? (toString n).toList = some n := by
  cases n with
  | ofNat n =>
    obtain ⟨c, ds, hds, hc, -⟩ := toDigits_eq_cons n
    have hne : ∀ {d : Char}, d.isDigit = false → c ≠ d := by
      rintro d hd rfl
      rw [hc] at hd
      cases hd
    rw [toList_toString_ofNat, hds, integer?_cons (hne (by decide)) (hne (by decide)), ← hds,
      digits?_toDigits, Option.map_some]
  | negSucc n =>
    rw [toList_toString_negSucc, integer?, digits?_toDigits]
    rfl

theorem int32?_toString (n : Int32) : int32? (toString n.toInt).toList = some n := by
  have hlow := n.le_toInt
  have hhigh := n.toInt_lt
  rw [int32?, integer?_toString, Option.bind_some, if_pos (by omega), Int32.ofInt_toInt]

theorem int64?_toString (n : Int64) : int64? (toString n.toInt).toList = some n := by
  have hlow := n.le_toInt
  have hhigh := n.toInt_lt
  rw [int64?, integer?_toString, Option.bind_some, if_pos (by omega), Int64.ofInt_toInt]

theorem isDigit_or_eq_of_mem_toString {n : Int} {c : Char} (h : c ∈ (toString n).toList) :
    c.isDigit = true ∨ c = '-' := by
  cases n with
  | ofNat n =>
    rw [toList_toString_ofNat] at h
    exact Or.inl (isDigit_of_mem_toDigits h)
  | negSucc n =>
    rw [toList_toString_negSucc] at h
    rcases List.mem_cons.1 h with h | h
    · exact Or.inr h
    · exact Or.inl (isDigit_of_mem_toDigits h)

theorem isWord_toString (n : Int) : IsWord (toString n).toList := by
  have hdigits : ∀ m : Nat, NoBlank (Nat.toDigits 10 m) := fun m c hc =>
    isBlank_of_isDigit (isDigit_of_mem_toDigits hc)
  cases n with
  | ofNat n =>
    rw [toList_toString_ofNat]
    exact ⟨Nat.toDigits_ne_nil, hdigits n⟩
  | negSucc n =>
    rw [toList_toString_negSucc]
    exact ⟨List.cons_ne_nil _ _, noBlank_cons.2 ⟨by decide, hdigits (n + 1)⟩⟩

end LogDigest.Text
