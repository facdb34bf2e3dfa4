import LogDigest.Json.Lexer
import LogDigest.Json.Printer
import LogDigest.Proofs.Numeral

/-!
# Strings and integers come back from their JSON form

Any text that is written as a string is read as that text (`readString_inside`), and any integer
of 64 bits, signed or unsigned, as that integer (`readNumber_integer`).

**Strings.** Each character is written on its own, plainly or escaped, so one lemma about a
character (`readChars_escapeChar`) gives the whole string by induction.

**Integers.** A numeral has no end of its own. What follows must not go on with it (`NumberEnds`):
no digit, no point and no exponent.
-/

namespace LogDigest.Json

open Text (NoDigitNext)

-- The powers here are those of the core library, whatever is imported beside this module.
attribute [local instance (high)] instPowNat

/-! ## Blanks -/

/-- Nothing but blanks. -/
def Blanks (b : List Char) : Prop := ∀ c ∈ b, isBlank c = true

theorem blanks_nil : Blanks [] := nofun

theorem blanks_space : Blanks [' '] := by
  intro c hc
  rw [List.mem_singleton.1 hc]
  decide

theorem blanks_newline (level : Nat) : Blanks (newline level) := by
  intro c hc
  rw [newline, List.mem_cons, List.mem_replicate] at hc
  rcases hc with rfl | ⟨-, rfl⟩ <;> decide

theorem skipBlanks_append {b : List Char} (hb : Blanks b) (s : List Char) :
    skipBlanks (b ++ s) = skipBlanks s :=
  List.dropWhile_append_of_pos hb

theorem skipBlanks_cons {c : Char} (hc : isBlank c = false) (s : List Char) :
    skipBlanks (c :: s) = c :: s :=
  List.dropWhile_cons_of_neg (by simp [hc])

theorem readColon_append {b : List Char} (hb : Blanks b) (s : List Char) :
    readColon (b ++ ':' :: s) = .ok s := by
  rw [readColon, skipBlanks_append hb, skipBlanks_cons (by decide)]
  rfl

/-! ## Strings -/

/-- What stands behind the opening quote of a string. -/
def inside (k : String) : List Char := k.toList.flatMap escapeChar ++ ['"']

theorem quote_eq (k : String) : quote k = '"' :: inside k := rfl

/-- The letter behind a backslash stands for the character that it was written for. -/
theorem unescape?_of_escapeLetter? {c l : Char} (h : escapeLetter? c = some l) :
    l ≠ 'u' ∧ unescape? l = some c := by
  -- Two of the controls are known by their numbers.
  have hcode : ∀ {n : Nat}, (Char.ofNat n).toNat = n → (c.toNat = n ↔ c = Char.ofNat n) := by
    intro n hn
    constructor
    · intro hc
      rw [← hc, Char.ofNat_toNat]
    · rintro rfl
      exact hn
  simp only [escapeLetter?, hcode (n := 8) rfl, hcode (n := 12) rfl] at h
  repeat' split at h
  all_goals cases h
  all_goals
    rename_i hc
    rw [hc]
    decide

theorem ne_of_escapeLetter?_eq_none {c : Char} (h : escapeLetter? c = none) :
    c ≠ '"' ∧ c ≠ '\\' := by
  refine ⟨?_, ?_⟩
  · rintro rfl
    exact absurd h (by decide)
  · rintro rfl
    exact absurd h (by decide)

theorem hexValue?_hexDigit {d : Nat} (h : d < 16) : Text.hexValue? (hexDigit d) = some d := by
  have hall : ∀ d < 16, Text.hexValue? (hexDigit d) = some d := by decide
  exact hall d h

theorem fewBytes_eq_false (a b c d : Char) (s : List Char) :
    fewBytes (a :: b :: c :: d :: s) = false := by
  have ha := a.utf8Size_pos
  have hb := b.utf8Size_pos
  have hc := c.utf8Size_pos
  have hd := d.utf8Size_pos
  simp only [fewBytes, List.take_succ_cons, List.take_zero, List.foldr_cons, List.foldr_nil]
  exact decide_eq_false (by omega)

theorem readChars_hex {due value digit : Nat} {lead : Option Nat} {c : Char}
    (hc : Text.hexValue? c = some digit) (hdue : 1 < due) (s : List Char) :
    readChars (.hex due value lead) (c :: s) =
      readChars (.hex (due - 1) (value * 16 + digit) lead) s := by
  simp only [readChars, hc]
  rw [if_pos hdue]

theorem readChars_lastHex {value digit : Nat} {c : Char} (hc : Text.hexValue? c = some digit)
    (hlow : value * 16 + digit < 0xD800) (s : List Char) :
    readChars (.hex 1 value none) (c :: s) =
      consChar (Char.ofNat (value * 16 + digit)) (readChars .plain s) := by
  simp only [readChars, hc]
  rw [if_neg (by decide), if_neg (by omega), if_neg (by omega)]

theorem readChars_control {c : Char} (hc : c.toNat < 32) (s : List Char) :
    readChars .plain
        ('\\' :: 'u' :: '0' :: '0' :: hexDigit (c.toNat / 16) :: hexDigit (c.toNat % 16) :: s) =
      consChar c (readChars .plain s) := by
  have hzero : Text.hexValue? '0' = some 0 := by decide
  have hhigh : Text.hexValue? (hexDigit (c.toNat / 16)) = some (c.toNat / 16) :=
    hexValue?_hexDigit (by omega)
  have hlow : Text.hexValue? (hexDigit (c.toNat % 16)) = some (c.toNat % 16) :=
    hexValue?_hexDigit (by omega)
  have hvalue : c.toNat / 16 * 16 + c.toNat % 16 = c.toNat := by omega
  rw [readChars, if_neg (by decide), if_pos rfl, readChars, if_pos rfl, fewBytes_eq_false,
    if_neg (by decide), readChars_hex hzero (by decide), readChars_hex hzero (by decide),
    readChars_hex hhigh (by decide), readChars_lastHex hlow (by omega)]
  simp only [Nat.zero_mul, Nat.zero_add, hvalue, Char.ofNat_toNat]

theorem readChars_escapeChar (c : Char) (s : List Char) :
    readChars .plain (escapeChar c ++ s) = consChar c (readChars .plain s) := by
  cases hletter : escapeLetter? c with
  | some l =>
    obtain ⟨hu, hl⟩ := unescape?_of_escapeLetter? hletter
    simp only [escapeChar, hletter, List.cons_append, List.nil_append]
    simp only [readChars]
    rw [if_neg (by decide), if_pos trivial, if_neg hu, hl]
  | none =>
    obtain ⟨hquote, hslash⟩ := ne_of_escapeLetter?_eq_none hletter
    simp only [escapeChar, hletter]
    split
    · rename_i hlow
      exact readChars_control hlow s
    · rename_i hlow
      rw [List.singleton_append, readChars, if_neg hquote, if_neg hslash, if_neg hlow]

theorem readChars_inside (cs s : List Char) :
    readChars .plain (cs.flatMap escapeChar ++ '"' :: s) = .ok (cs, s) := by
  induction cs with
  | nil => rw [List.flatMap_nil, List.nil_append, readChars, if_pos rfl]
  | cons c cs ih =>
    rw [List.flatMap_cons, List.append_assoc, readChars_escapeChar, ih]
    rfl

/-- **A string is read from what it is written as.** -/
theorem readString_inside (k : String) (s : List Char) :
    readString (inside k ++ s) = .ok (k, s) := by
  rw [readString, inside, List.append_assoc, List.singleton_append, readChars_inside]
  simp only [Except.map, String.ofList_toList]

/-! ## Integers -/

/-- The text does not go on with a number. -/
def NumberEnds (s : List Char) : Prop :=
  ∀ c ∈ s.head?, c.isDigit = false ∧ c ≠ '.' ∧ c ≠ 'e' ∧ c ≠ 'E'

theorem numberEnds_cons {c : Char} (h : c.isDigit = false ∧ c ≠ '.' ∧ c ≠ 'e' ∧ c ≠ 'E')
    (s : List Char) : NumberEnds (c :: s) := by
  intro d hd
  cases hd
  exact h

/-- Blanks end a number, and so does a mark behind them. -/
theorem numberEnds_append {b : List Char} (hb : Blanks b) {c : Char}
    (hc : c.isDigit = false ∧ c ≠ '.' ∧ c ≠ 'e' ∧ c ≠ 'E') (s : List Char) :
    NumberEnds (b ++ c :: s) := by
  cases b with
  | nil => exact numberEnds_cons hc s
  | cons d b =>
    have hd := hb d List.mem_cons_self
    simp only [isBlank, Bool.or_eq_true, decide_eq_true_eq] at hd
    refine numberEnds_cons ?_ _
    rcases hd with ((rfl | rfl) | rfl) | rfl <;> decide

theorem NumberEnds.noDigitNext {s : List Char} (h : NumberEnds s) : NoDigitNext s :=
  fun c hc => (h c hc).1

theorem readWhole_toDigits (n : Nat) {s : List Char} (hs : NoDigitNext s) :
    readWhole (Nat.toDigits 10 n ++ s) = .ok (Nat.toDigits 10 n, s) := by
  by_cases hn : n = 0
  · have hnext : digitNext s = false := by
      cases s with
      | nil => rfl
      | cons c s => exact hs c rfl
    rw [hn, Nat.toDigits_zero, List.singleton_append, readWhole, hnext]
    rfl
  · obtain ⟨c, ds, hds, -, hc⟩ := Text.toDigits_eq_cons n
    have hdigits : ∀ d ∈ c :: ds, d.isDigit = true := by
      rw [← hds]
      exact fun d hd => Text.isDigit_of_mem_toDigits hd
    have hspan : spanDigits (c :: ds ++ s) = (c :: ds, s) := by
      rw [spanDigits, Text.takeWhile_isDigit_append hdigits hs,
        Text.dropWhile_isDigit_append hdigits hs]
    rw [hds, List.cons_append, readWhole.eq_def]
    split
    · rename_i heq
      cases heq
    · rename_i heq
      cases heq
      exact absurd rfl (hc hn)
    · rename_i heq
      cases heq
      rw [if_pos (hdigits c List.mem_cons_self)]
      exact congrArg Except.ok hspan

theorem readPlaces_of_ends {s : List Char} (hs : NumberEnds s) : readPlaces s = .ok (none, s) := by
  cases s with
  | nil => rfl
  | cons c s =>
    rw [readPlaces.eq_def]
    split
    · rename_i heq
      cases heq
      exact absurd rfl (hs _ rfl).2.1
    · rfl

theorem readExponent_of_ends {s : List Char} (hs : NumberEnds s) :
    readExponent s = .ok (none, s) := by
  cases s with
  | nil => rfl
  | cons c s =>
    obtain ⟨-, -, hlower, hupper⟩ := hs c rfl
    rw [readExponent.eq_def]
    exact if_neg (not_or.2 ⟨hlower, hupper⟩)

theorem le_ofDigitChars (n : Nat) (ds : List Char) : n ≤ Nat.ofDigitChars 10 ds n := by
  rw [Nat.ofDigitChars_eq_ofDigitChars_zero]
  have hpos : 1 ≤ 10 ^ ds.length := Nat.one_le_pow _ _ (by decide)
  have := Nat.le_mul_of_pos_left n hpos
  omega

/-- Digits that fit 64 bits are all taken. -/
theorem absorb_eq {n : Nat} {ds : List Char} (h : Nat.ofDigitChars 10 ds n ≤ significandLimit) :
    absorb n ds = (Nat.ofDigitChars 10 ds n, 0) := by
  induction ds generalizing n with
  | nil => rfl
  | cons c ds ih =>
    rw [Nat.ofDigitChars_cons] at h ⊢
    have hn := Nat.le_trans (le_ofDigitChars _ ds) h
    rw [absorb]
    exact (if_pos hn).trans (ih h)

theorem readUnsigned_toDigits (negative : Bool) (n : Nat) {s : List Char} (hs : NumberEnds s) :
    readUnsigned negative (Nat.toDigits 10 n ++ s) =
      .ok (numberOf negative (Nat.toDigits 10 n) none none, s) := by
  simp only [readUnsigned, readWhole_toDigits n hs.noDigitNext, readPlaces_of_ends hs,
    readExponent_of_ends hs, bind, Except.bind, pure, Except.pure]

/-- The number of a numeral without a point and without an exponent. -/
theorem numberOf_toDigits {negative : Bool} {n : Nat} (hn : n ≤ significandLimit)
    (hneg : negative = true → 0 < n ∧ n ≤ 9223372036854775808) :
    numberOf negative (Nat.toDigits 10 n) none none =
      .integer (if negative then -(n : Int) else n) := by
  have hfits : Nat.ofDigitChars 10 (Nat.toDigits 10 n) 0 ≤ significandLimit := by
    rw [Nat.ofDigitChars_ten_toDigits]
    exact hn
  have hwhole : absorb 0 (Nat.toDigits 10 n) = (n, 0) := by
    rw [absorb_eq hfits, Nat.ofDigitChars_ten_toDigits]
  simp only [numberOf, hwhole]
  rw [if_neg (by simp)]
  cases negative with
  | true => rw [if_pos rfl, if_pos (hneg rfl), if_pos rfl]
  | false => rfl

theorem text_ofNat (n : Nat) : (JsonNumber.integer (.ofNat n)).text = Nat.toDigits 10 n := by
  rw [JsonNumber.text, Text.toList_toString_ofNat]

theorem text_negSucc (n : Nat) :
    (JsonNumber.integer (.negSucc n)).text = '-' :: Nat.toDigits 10 (n + 1) := by
  rw [JsonNumber.text, Text.toList_toString_negSucc]

theorem text_integer_eq_cons (n : Int) :
    ∃ c t, (JsonNumber.integer n).text = c :: t ∧ (c = '-' ∨ c.isDigit = true) := by
  cases n with
  | ofNat n =>
    obtain ⟨c, ds, hds, hc, -⟩ := Text.toDigits_eq_cons n
    exact ⟨c, ds, by rw [text_ofNat, hds], .inr hc⟩
  | negSucc n => exact ⟨_, _, text_negSucc n, .inl rfl⟩

theorem isBlank_of_opensInteger {c : Char} (hc : c = '-' ∨ c.isDigit = true) :
    isBlank c = false ∧ c ≠ 'n' := by
  have hne : ∀ {d : Char}, d ≠ '-' → d.isDigit = false → c ≠ d := by
    intro d hminus hdigit heq
    subst heq
    rcases hc with hc | hc
    · exact hminus hc
    · exact absurd hc (by simp [hdigit])
  refine ⟨?_, hne (by decide) (by decide)⟩
  simp only [isBlank, Bool.or_eq_false_iff, decide_eq_false_iff_not]
  exact ⟨⟨⟨hne (by decide) (by decide), hne (by decide) (by decide)⟩, hne (by decide) (by decide)⟩,
    hne (by decide) (by decide)⟩

theorem readNumber_of_isDigit {c : Char} (hc : c.isDigit = true) (s : List Char) :
    readNumber (c :: s) = readUnsigned false (c :: s) := by
  rw [readNumber.eq_def]
  split
  · rename_i heq
    cases heq
    exact absurd hc (by decide)
  · rfl

/-- **An integer of 64 bits is read from what it is written as.** -/
theorem readNumber_integer {n : Int} (hn : -9223372036854775808 ≤ n ∧ n ≤ 18446744073709551615)
    {s : List Char} (hs : NumberEnds s) :
    readNumber ((JsonNumber.integer n).text ++ s) = .ok (.integer n, s) := by
  cases n with
  | ofNat n =>
    have hfits : n ≤ significandLimit := Int.ofNat_le.1 hn.2
    obtain ⟨c, ds, hds, hc, -⟩ := Text.toDigits_eq_cons n
    have hopen : readNumber (Nat.toDigits 10 n ++ s) =
        readUnsigned false (Nat.toDigits 10 n ++ s) := by
      rw [hds, List.cons_append, readNumber_of_isDigit hc]
    rw [text_ofNat, hopen, readUnsigned_toDigits false n hs,
      numberOf_toDigits hfits fun h => by cases h]
    rfl
  | negSucc n =>
    have hfits : n + 1 ≤ 9223372036854775808 := by omega
    have hlimit : n + 1 ≤ significandLimit := Nat.le_trans hfits (by decide)
    rw [text_negSucc, List.cons_append, readNumber, readUnsigned_toDigits true (n + 1) hs,
      numberOf_toDigits hlimit fun _ => ⟨Nat.succ_pos n, hfits⟩]
    rfl

end LogDigest.Json
