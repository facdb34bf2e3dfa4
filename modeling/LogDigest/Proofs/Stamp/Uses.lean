import LogDigest.Proofs.Permissive
import LogDigest.Proofs.Settings

/-!
# What a pattern uses of a text

A pattern reads a text by cutting it into one part for each of its items. `PatternItem.Uses` says
which parts an item takes, as far as the characters of the whole text depend on it, and
`Pattern.Uses` says that a text is such parts in the order of the items.

**Inversion.** Whatever is read is used in this way (`Pattern.uses_of_readFrom`). So what the parts
have in common holds of every text that a pattern reads, and no proof looks into a reader again.

**Numbers.** A number is blanks, a sign if it is a year, and digits, of which there are at most two
if it is no year. So more digits than that are left to the items behind it.
-/

namespace LogDigest

open Text

/-! ## Parts -/

/-- The part of a text that a number takes. -/
def TimeUnit.Uses (unit : TimeUnit) (s : List Char) : Prop :=
  ∃ gap sign ds, s = gap ++ (sign ++ ds) ∧ (∀ c ∈ gap, isBlank c = true) ∧
    (∀ c ∈ sign, unit = .year ∧ (c = '-' ∨ c = '+')) ∧ (∀ c ∈ ds, c.isDigit = true) ∧
    (unit ≠ .year → ds.length ≤ 2)

/-- The part of a text that an item takes. Nothing is said of the names of months and of offsets
with optional colons. -/
def PatternItem.Uses : PatternItem → List Char → Prop
  | .number unit, s => unit.Uses s
  | .digits _ width, s => s.length = width ∧ ∀ c ∈ s, c.isDigit = true
  | .blanks, s => ∀ c ∈ s, isBlank c = true
  | .mark chars, s => ∃ c ∈ chars, s = [c]
  | .fraction, s => s = [] ∨ ∃ ds, s = '.' :: ds ∧ ∀ c ∈ ds, c.isDigit = true
  | .halfDay, s => s.map Char.toLower = ['a', 'm'] ∨ s.map Char.toLower = ['p', 'm']
  | .zone, s => s = ['Z'] ∨ s = ['z'] ∨ ':' ∈ s
  | .monthName, _ => True
  | .offset, _ => True

/-- A text that is cut into parts of the items in their order. -/
def Pattern.Uses : Pattern → List Char → Prop
  | [], s => s = []
  | item :: p, s => ∃ part rest, s = part ++ rest ∧ item.Uses part ∧ Pattern.Uses p rest

theorem Pattern.uses_append {p q : Pattern} {s : List Char} :
    Pattern.Uses (p ++ q) s ↔ ∃ a b, s = a ++ b ∧ Pattern.Uses p a ∧ Pattern.Uses q b := by
  induction p generalizing s with
  | nil =>
    constructor
    · intro h
      exact ⟨[], s, rfl, rfl, h⟩
    · rintro ⟨a, b, rfl, rfl, h⟩
      exact h
  | cons item p ih =>
    constructor
    · rintro ⟨part, rest, rfl, hpart, hrest⟩
      obtain ⟨a, b, rfl, ha, hb⟩ := ih.1 hrest
      exact ⟨part ++ a, b, by rw [List.append_assoc], ⟨part, a, rfl, hpart, ha⟩, hb⟩
    · rintro ⟨-, b, rfl, ⟨part, a, rfl, hpart, ha⟩, hb⟩
      exact ⟨part, a ++ b, by rw [List.append_assoc], hpart, ih.2 ⟨a, b, rfl, ha, hb⟩⟩

/-! ## Digits and numbers -/

theorem exists_digits_of_readDigits {width n : Nat} {s rest : List Char}
    (h : readDigits width s = .ok (n, rest)) :
    ∃ ds, s = ds ++ rest ∧ ds.length ≤ width ∧ ∀ c ∈ ds, c.isDigit = true := by
  rw [readDigits] at h
  split at h
  · cases h
  · cases h
    have hprefix : (s.take width).takeWhile Char.isDigit <+: s :=
      (List.takeWhile_prefix _).trans (List.take_prefix _ _)
    refine ⟨(s.take width).takeWhile Char.isDigit, ?_, ?_, fun c hc => List.mem_takeWhile_imp hc⟩
    · obtain ⟨t, ht⟩ := hprefix
      have hdrop := congrArg (List.drop ((s.take width).takeWhile Char.isDigit).length) ht
      rw [List.drop_left] at hdrop
      rw [← hdrop, ht]
    · exact ((List.takeWhile_prefix _).length_le).trans (List.length_take_le _ _)

theorem exists_digits_of_readExactDigits {width n : Nat} {s rest : List Char}
    (h : readExactDigits width s = .ok (n, rest)) :
    ∃ ds, s = ds ++ rest ∧ ds.length = width ∧ ∀ c ∈ ds, c.isDigit = true := by
  rw [readExactDigits] at h
  split at h
  · cases h
  · rename_i hlength
    split at h
    · rename_i hall
      cases h
      refine ⟨s.take width, (List.take_append_drop width s).symm, ?_, List.all_eq_true.1 hall⟩
      exact Nat.le_antisymm (List.length_take_le _ _) (Nat.le_of_not_lt hlength)
    · cases h

theorem exists_of_map_ok {α β : Type} {x : Except Misread α} {f : α → β} {b : β}
    (h : x.map f = .ok b) : ∃ a, x = .ok a ∧ f a = b := by
  cases x with
  | error e => cases h
  | ok a => exact ⟨a, rfl, Except.ok.inj h⟩

theorem TimeUnit.exists_uses_of_readNumber {unit : TimeUnit} {n : Int} {s rest : List Char}
    (h : readNumber unit (trimLeft s) = .ok (n, rest)) :
    ∃ part, s = part ++ rest ∧ unit.Uses part := by
  -- What follows the blanks has to be a sign, of a year only, and digits.
  suffices hbody : ∃ sign ds, trimLeft s = sign ++ (ds ++ rest) ∧
      (∀ c ∈ sign, unit = .year ∧ (c = '-' ∨ c = '+')) ∧ (∀ c ∈ ds, c.isDigit = true) ∧
      (unit ≠ .year → ds.length ≤ 2) by
    obtain ⟨sign, ds, hs, hsign, hds, hlength⟩ := hbody
    refine ⟨s.takeWhile isBlank ++ (sign ++ ds), ?_, s.takeWhile isBlank, sign, ds, rfl,
      fun c hc => List.mem_takeWhile_imp hc, hsign, hds, hlength⟩
    rw [List.append_assoc, List.append_assoc, ← hs, trimLeft, List.takeWhile_append_dropWhile]
  cases unit with
  | year =>
    rw [LogDigest.readNumber, readYear.eq_def] at h
    split at h
    · rename_i t heq
      obtain ⟨⟨m, t'⟩, hread, ⟨⟩⟩ := exists_of_map_ok h
      obtain ⟨ds, rfl, -, hds⟩ := exists_digits_of_readDigits hread
      exact ⟨['-'], ds, heq, by simp, hds, by simp⟩
    · rename_i t heq
      obtain ⟨⟨m, t'⟩, hread, ⟨⟩⟩ := exists_of_map_ok h
      obtain ⟨ds, rfl, -, hds⟩ := exists_digits_of_readDigits hread
      exact ⟨['+'], ds, heq, by simp, hds, by simp⟩
    · obtain ⟨⟨m, t'⟩, hread, ⟨⟩⟩ := exists_of_map_ok h
      obtain ⟨ds, heq, -, hds⟩ := exists_digits_of_readDigits hread
      exact ⟨[], ds, heq, by simp, hds, by simp⟩
  | month | day | hour | halfDayHour | minute | second =>
    obtain ⟨⟨m, t'⟩, hread, ⟨⟩⟩ := exists_of_map_ok h
    obtain ⟨ds, heq, hlength, hds⟩ := exists_digits_of_readDigits hread
    exact ⟨[], ds, heq, by simp, hds, fun _ => hlength⟩

/-! ## Items -/

/-- What stands between hours and minutes of an offset is read by the reader given for it. -/
theorem exists_gap_of_readOffset {gap : List Char → Except Misread (List Char)} {m : Int}
    {s rest : List Char} (h : readOffset gap s = .ok (m, rest)) :
    ∃ between after, between <:+ s ∧ gap between = .ok after ∧ rest <:+ after := by
  rw [readOffset] at h
  obtain ⟨⟨sign, s₁⟩, hsign, h⟩ := exists_of_bind_ok h
  obtain ⟨⟨hours, s₂⟩, hhours, h⟩ := exists_of_bind_ok h
  obtain ⟨s₃, hgap, h⟩ := exists_of_bind_ok h
  obtain ⟨⟨minutes, s₄⟩, hminutes, h⟩ := exists_of_bind_ok h
  have hbetween : s₂ <:+ s :=
    (leaves_readExactDigits 2 s₁ hours s₂ hhours).trans (leaves_readSign s sign s₁ hsign)
  have hrest : rest = s₄ := by
    dsimp only at h
    split at h
    · cases h
    · split at h
      · cases h
      · cases h
        rfl
  subst hrest
  exact ⟨s₂, s₃, hbetween, hgap, leaves_readExactDigits 2 s₃ minutes rest hminutes⟩

theorem exists_uses_of_readZone {m : Int} {s rest : List Char} (h : readZone s = .ok (m, rest)) :
    ∃ part, s = part ++ rest ∧ PatternItem.zone.Uses part := by
  cases s with
  | nil => cases h
  | cons c s =>
    rw [readZone] at h
    split at h
    · rename_i hc
      cases h
      rcases hc with rfl | rfl
      · exact ⟨['Z'], rfl, Or.inl rfl⟩
      · exact ⟨['z'], rfl, Or.inr (Or.inl rfl)⟩
    · obtain ⟨between, after, ⟨before, hbefore⟩, hgap, ⟨minutes, hminutes⟩⟩ :=
        exists_gap_of_readOffset h
      obtain ⟨colon, hcolon, rfl⟩ := exists_of_readMark hgap
      rw [List.mem_singleton] at hcolon
      subst hcolon hminutes
      refine ⟨before ++ ':' :: minutes, ?_, Or.inr (Or.inr (by simp))⟩
      rw [← hbefore, List.append_assoc, List.cons_append]

/-- **What an item reads is a part of its kind.** -/
theorem PatternItem.exists_uses_of_read {item : PatternItem} {r r' : Reading} {s rest : List Char}
    (h : item.read r s = .ok (r', rest)) : ∃ part, s = part ++ rest ∧ item.Uses part := by
  cases item with
  | number unit =>
    obtain ⟨⟨n, t⟩, hread, h⟩ := exists_of_bind_ok h
    obtain ⟨r₁, -, h⟩ := exists_of_bind_ok h
    cases h
    exact TimeUnit.exists_uses_of_readNumber hread
  | digits unit width =>
    obtain ⟨⟨n, t⟩, hread, h⟩ := exists_of_bind_ok h
    obtain ⟨r₁, -, h⟩ := exists_of_bind_ok h
    cases h
    obtain ⟨ds, hs, hlength, hds⟩ := exists_digits_of_readExactDigits hread
    exact ⟨ds, hs, hlength, hds⟩
  | blanks =>
    cases h
    exact ⟨s.takeWhile isBlank, List.takeWhile_append_dropWhile.symm,
      fun c hc => List.mem_takeWhile_imp hc⟩
  | mark chars =>
    obtain ⟨c, hc, rfl⟩ := exists_of_read_mark h
    exact ⟨[c], rfl, c, hc, rfl⟩
  | fraction =>
    rw [read.eq_def] at h
    dsimp only at h
    split at h
    · obtain ⟨⟨n, t⟩, hread, ⟨⟩⟩ := exists_of_map_ok h
      obtain ⟨⟨m, t'⟩, hdigits, ⟨⟩⟩ := exists_of_map_ok hread
      obtain ⟨ds, rfl, -, hds⟩ := exists_digits_of_readDigits hdigits
      refine ⟨'.' :: (ds ++ t'.takeWhile Char.isDigit), ?_, Or.inr ⟨_, rfl, fun c hc => ?_⟩⟩
      · rw [List.cons_append, List.append_assoc, List.takeWhile_append_dropWhile]
      · rcases List.mem_append.1 hc with hc | hc
        · exact hds c hc
        · exact List.mem_takeWhile_imp hc
    · cases h
      exact ⟨[], rfl, Or.inl rfl⟩
  | monthName =>
    obtain ⟨part, hs⟩ := PatternItem.leaves_read .monthName r s r' rest h
    exact ⟨part, hs.symm, trivial⟩
  | halfDay =>
    have hs : s = s.take 2 ++ s.drop 2 := (List.take_append_drop 2 s).symm
    rw [read] at h
    split at h
    · cases h
    · split at h
      · rename_i ham
        cases h
        exact ⟨s.take 2, hs, Or.inl ham⟩
      · split at h
        · rename_i hpm
          cases h
          exact ⟨s.take 2, hs, Or.inr hpm⟩
        · cases h
  | offset =>
    obtain ⟨part, hs⟩ := PatternItem.leaves_read .offset r s r' rest h
    exact ⟨part, hs.symm, trivial⟩
  | zone =>
    obtain ⟨⟨m, t⟩, hread, ⟨⟩⟩ := exists_of_map_ok h
    exact exists_uses_of_readZone hread

/-- **What a pattern reads is parts of its items.** -/
theorem Pattern.uses_of_readFrom {p : Pattern} {r r' : LogDigest.Reading} {s : List Char}
    (h : p.readFrom r s = .ok r') : Pattern.Uses p s := by
  induction p generalizing r s with
  | nil =>
    cases s with
    | nil => rfl
    | cons c s => cases h
  | cons item p ih =>
    rw [readFrom] at h
    cases hitem : item.read r s with
    | error e =>
      rw [hitem] at h
      cases h
    | ok next =>
      obtain ⟨r₁, rest⟩ := next
      rw [hitem] at h
      obtain ⟨part, hs, hpart⟩ := PatternItem.exists_uses_of_read hitem
      exact ⟨part, rest, hs, hpart, ih h⟩

/-! ## Digits where a number has to stand -/

namespace Pattern

variable {p : Pattern} {unit : TimeUnit} {c : Char} {ds s : List Char}

/-- Digits where a number of two digits has to stand: the number takes two of them at most. -/
theorem Uses.exists_of_number (h : Uses (.number unit :: p) (ds ++ s)) (hunit : unit ≠ .year)
    (hds : ∀ c ∈ ds, c.isDigit = true) (hne : ds ≠ []) :
    ∃ a b, ds ++ s = a ++ b ∧ (∀ c ∈ a, c.isDigit = true) ∧ a.length ≤ 2 ∧ Uses p b := by
  obtain ⟨part, rest, hs, ⟨gap, sign, a, rfl, hgap, hsign, ha, hlength⟩, hrest⟩ := h
  have hnoSign : sign = [] := List.eq_nil_iff_forall_not_mem.2 fun e he => hunit (hsign e he).1
  have hnoGap : gap = [] := by
    cases gap with
    | nil => rfl
    | cons g gap =>
      cases ds with
      | nil => exact absurd rfl hne
      | cons d ds =>
        simp only [List.cons_append, List.cons.injEq] at hs
        have hblank := isBlank_of_isDigit (hds d List.mem_cons_self)
        rw [hs.1, hgap g List.mem_cons_self] at hblank
        cases hblank
  subst hnoSign hnoGap
  exact ⟨a, rest, hs, ha, hlength hunit, hrest⟩

/-- Digits before a mark are one or two, and what follows them is that mark. -/
theorem Uses.exists_of_number_mark (h : Uses (.number unit :: .mark [c] :: p) (ds ++ s))
    (hunit : unit ≠ .year) (hc : c.isDigit = false) (hds : ∀ c ∈ ds, c.isDigit = true)
    (hne : ds ≠ []) (hs : NoDigitNext s) : ds.length ≤ 2 ∧ ∃ t, s = c :: t ∧ Uses p t := by
  obtain ⟨a, b, heq, ha, hlength, mark, t, rfl, ⟨d, hd, rfl⟩, ht⟩ :=
    h.exists_of_number hunit hds hne
  obtain rfl := (List.mem_singleton.1 hd).symm
  have hmark : NoDigitNext ([c] ++ t) := noDigitNext_cons hc t
  have hdigits : ds = a := by
    rw [← takeWhile_isDigit_append hds hs, heq, takeWhile_isDigit_append ha hmark]
  subst hdigits
  exact ⟨hlength, t, List.append_cancel_left heq, ht⟩

/-- Of three digits or more a number leaves some to what follows it. -/
theorem Uses.exists_left_of_number (h : Uses (.number unit :: p) (ds ++ s)) (hunit : unit ≠ .year)
    (hds : ∀ c ∈ ds, c.isDigit = true) (hlength : 2 < ds.length) :
    ∃ d fs, d.isDigit = true ∧ (∀ c ∈ fs, c.isDigit = true) ∧ Uses p (d :: (fs ++ s)) := by
  have hne : ds ≠ [] := List.ne_nil_of_length_pos (by omega)
  obtain ⟨a, b, heq, -, hshort, hb⟩ := h.exists_of_number hunit hds hne
  rcases List.append_eq_append_iff.1 heq with ⟨a', rfl, -⟩ | ⟨fs, rfl, rfl⟩
  · rw [List.length_append] at hshort
    omega
  · cases fs with
    | nil =>
      rw [List.append_nil] at hlength
      omega
    | cons d fs =>
      obtain ⟨hd, hfs⟩ := List.forall_mem_cons.1 (List.forall_mem_append.1 hds).2
      exact ⟨d, fs, hd, hfs, hb⟩

/-- Where no blank stands none is skipped. -/
theorem Uses.of_blanks (h : Uses (.blanks :: p) (c :: s)) (hc : isBlank c = false) :
    Uses p (c :: s) := by
  obtain ⟨part, rest, hs, hpart, hrest⟩ := h
  cases part with
  | nil =>
    rw [hs]
    exact hrest
  | cons b part =>
    cases hs
    rw [hpart c List.mem_cons_self] at hc
    cases hc

end Pattern

end LogDigest
