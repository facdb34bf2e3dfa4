import LogDigest.Proofs.Stamp.Uses

/-!
# The kind of a timestamp's text

Which forms of log files can read a text shows at a glance: the first of its hyphens, slashes and
points, the number of its colons, and whether it has a letter of a zone or of a half day. These
make its `Outline`, and the outline its `StampKind`.

**At most two forms.** A form reads only texts of its own kind (`StampForm.mem_forms_of_read?`), and
no kind has more than two forms. So trying the thirteen forms is trying those of the kind
(`Timestamp.ofText?_eq_forms`).

**Whose separators.** The glance is at the text with uniform separators, since the year-first forms
read that one. A form that begins with a number of two digits reads no text that opens with a year,
so for such a form nothing was changed.
-/

namespace LogDigest

open Text

-- What is said of all characters of a list is decided on the list, whatever is imported beside this
-- module.
attribute [local instance (high)] List.decidableBAll

deriving instance DecidableEq for StampForm

/-! ## Kinds -/

/-- Forms that a glance cannot tell apart. -/
inductive StampKind where
  | standard
  | commonLog
  | yearFirst
  | yearFirstMinute
  | slashed
  | halfDay
  | pointed
  | yearFirstDate
  | slashedDate
deriving DecidableEq, Repr

namespace StampKind

/-- The forms of a kind in the order in which they are tried. -/
def forms : StampKind → List StampForm
  | .standard => [{ pattern := .standard }]
  | .commonLog => [{ pattern := .commonLog }]
  | .yearFirst =>
    [{ pattern := .yearFirstFraction, uniform := true },
     { pattern := .yearFirstSecond, uniform := true }]
  | .yearFirstMinute => [{ pattern := .yearFirstMinute, uniform := true }]
  | .slashed => [{ pattern := .monthFirst }, { pattern := .dayFirst }]
  | .halfDay => [{ pattern := .monthFirstHalfDay }]
  | .pointed => [{ pattern := .pointedFraction }, { pattern := .pointedSecond }]
  | .yearFirstDate => [{ pattern := .yearFirstDate }]
  | .slashedDate => [{ pattern := .monthFirstDate }, { pattern := .dayFirstDate }]

/-- Every form of a kind is among all forms, in the same order. -/
theorem filter_forms (kind : StampKind) :
    StampForm.all.filter (kind.forms.contains ·) = kind.forms := by
  cases kind <;> decide

end StampKind

/-! ## Outlines -/

/-- What a text shows at a glance. -/
structure Outline where
  /-- The first hyphen, slash or point. -/
  separator : Option Char
  colons : Nat
  /-- Whether there is a letter of universal time or of a half day. -/
  lettered : Bool
deriving DecidableEq, Repr

def isSeparator (c : Char) : Bool := ['-', '/', '.'].contains c

def isStampLetter (c : Char) : Bool := ['Z', 'z', 'M', 'm'].contains c

namespace Outline

def ofText (s : List Char) : Outline where
  separator := s.find? isSeparator
  colons := s.count ':'
  lettered := s.any isStampLetter

def kind (o : Outline) : StampKind :=
  if o.separator = some '/' then
    if 3 ≤ o.colons then .commonLog
    else if o.colons = 0 then .slashedDate
    else if o.lettered then .halfDay
    else .slashed
  else if o.separator = some '.' then .pointed
  else if o.lettered ∨ 3 ≤ o.colons then .standard
  else if o.colons = 0 then .yearFirstDate
  else if o.colons = 1 then .yearFirstMinute
  else .yearFirst

end Outline

def StampKind.ofText (s : List Char) : StampKind := (Outline.ofText (LogDigest.yearFirst s)).kind

namespace Outline

theorem ofText_cons (c : Char) (s : List Char) :
    ofText (c :: s) =
      { separator := if isSeparator c then some c else (ofText s).separator
        colons := (ofText s).colons + if c = ':' then 1 else 0
        lettered := isStampLetter c || (ofText s).lettered } := by
  simp only [ofText, List.find?_cons, List.count_cons, List.any_cons, beq_iff_eq]
  cases isSeparator c <;> rfl

theorem ofText_append {ds : List Char} (hds : ∀ c ∈ ds, c.isDigit = true) (s : List Char) :
    ofText (ds ++ s) = ofText s := by
  have hmarks : ∀ c ∈ ['-', '/', '.', 'Z', 'z', 'M', 'm', ':'], c.isDigit = false := by decide
  induction ds with
  | nil => rfl
  | cons c ds ih =>
    have hne : c ∉ ['-', '/', '.', 'Z', 'z', 'M', 'm', ':'] := by
      intro hc
      have hdigit := hds c List.mem_cons_self
      rw [hmarks c hc] at hdigit
      cases hdigit
    simp only [List.mem_cons, List.not_mem_nil, or_false, not_or] at hne
    rw [List.cons_append, ofText_cons, ih fun d hd => hds d (List.mem_cons_of_mem c hd)]
    simp [isSeparator, isStampLetter, hne]

end Outline

/-! ## Plain items -/

/-- Whether the item takes no letters, and no colons but the one that it may ask for. -/
def PatternItem.isPlain : PatternItem → Bool
  | .number _ | .digits _ _ | .blanks | .fraction => true
  | .mark chars => chars = [':'] || chars.all isSeparator
  | .monthName | .halfDay | .offset | .zone => false

/-- The number of colons that the item asks for. -/
def PatternItem.colons (item : PatternItem) : Nat := if item = .mark [':'] then 1 else 0

/-- The number of colons that a pattern asks for. -/
def Pattern.colons : Pattern → Nat
  | [] => 0
  | item :: p => item.colons + colons p

/-- A character that a plain item may take when it asks for no colon. -/
def IsPlainChar (c : Char) : Prop :=
  isBlank c = true ∨ c.isDigit = true ∨ c ∈ ['-', '+', '/', '.']

theorem not_isPlainChar {c : Char}
    (h : isBlank c = false ∧ c.isDigit = false ∧ c ∉ ['-', '+', '/', '.']) : ¬ IsPlainChar c := by
  obtain ⟨hblank, hdigit, hmark⟩ := h
  rintro (h | h | h)
  · rw [hblank] at h
    cases h
  · rw [hdigit] at h
    cases h
  · exact hmark h

theorem not_isPlainChar_colon : ¬ IsPlainChar ':' := not_isPlainChar (by decide)

theorem IsPlainChar.isStampLetter_eq_false {c : Char} (h : IsPlainChar c) :
    isStampLetter c = false := by
  have hletters : ∀ c ∈ ['Z', 'z', 'M', 'm'],
      isBlank c = false ∧ c.isDigit = false ∧ c ∉ ['-', '+', '/', '.'] := by decide
  rw [← Bool.not_eq_true, isStampLetter, List.contains_iff_mem]
  exact fun hc => not_isPlainChar (hletters c hc) h

theorem not_isBlank_of_isSeparator {c : Char} (h : isSeparator c = true) :
    isBlank c = false ∧ c.isDigit = false := by
  have hall : ∀ c ∈ ['-', '/', '.'], isBlank c = false ∧ c.isDigit = false := by decide
  rw [isSeparator, List.contains_iff_mem] at h
  exact hall c h

/-- What a number takes: blanks, digits, and a sign of a year. -/
theorem TimeUnit.Uses.char_cases {unit : TimeUnit} {s : List Char} (h : unit.Uses s) :
    ∀ c ∈ s, isBlank c = true ∨ c.isDigit = true ∨ unit = .year ∧ (c = '-' ∨ c = '+') := by
  obtain ⟨gap, sign, ds, rfl, hgap, hsign, hds, -⟩ := h
  intro c hc
  rcases List.mem_append.1 hc with hc | hc
  · exact Or.inl (hgap c hc)
  · rcases List.mem_append.1 hc with hc | hc
    · exact Or.inr (Or.inr (hsign c hc))
    · exact Or.inr (Or.inl (hds c hc))

namespace PatternItem

variable {item : PatternItem} {s : List Char}

/-- A plain item takes a colon, if it asks for one, and plain characters otherwise. -/
theorem Uses.plain_cases (hitem : item.isPlain = true) (h : item.Uses s) :
    item.colons = 1 ∧ s = [':'] ∨ item.colons = 0 ∧ ∀ c ∈ s, IsPlainChar c := by
  cases item with
  | number unit =>
    refine Or.inr ⟨rfl, fun c hc => ?_⟩
    rcases h.char_cases c hc with hc | hc | ⟨-, rfl | rfl⟩
    · exact Or.inl hc
    · exact Or.inr (Or.inl hc)
    · exact Or.inr (Or.inr (by decide))
    · exact Or.inr (Or.inr (by decide))
  | digits unit width => exact Or.inr ⟨rfl, fun c hc => Or.inr (Or.inl (h.2 c hc))⟩
  | blanks => exact Or.inr ⟨rfl, fun c hc => Or.inl (h c hc)⟩
  | mark chars =>
    obtain ⟨c, hc, rfl⟩ := h
    simp only [isPlain, Bool.or_eq_true, decide_eq_true_eq, List.all_eq_true] at hitem
    rcases hitem with rfl | hall
    · rw [List.mem_singleton] at hc
      subst hc
      exact Or.inl ⟨rfl, rfl⟩
    · have hmark : ∀ d ∈ ['-', '/', '.'], d ∈ ['-', '+', '/', '.'] := by decide
      have hsep := hall c hc
      rw [isSeparator, List.contains_iff_mem] at hsep
      refine Or.inr ⟨if_neg ?_, ?_⟩
      · intro hchars
        cases hchars
        rw [List.mem_singleton] at hc
        subst hc
        revert hsep
        decide
      · intro d hd
        rw [List.mem_singleton] at hd
        subst hd
        exact Or.inr (Or.inr (hmark d hsep))
  | fraction =>
    refine Or.inr ⟨rfl, fun c hc => ?_⟩
    rcases h with rfl | ⟨ds, rfl, hds⟩
    · cases hc
    · rcases List.mem_cons.1 hc with rfl | hc
      · exact Or.inr (Or.inr (by decide))
      · exact Or.inr (Or.inl (hds c hc))
  | monthName | halfDay | offset | zone => cases hitem

/-- Every colon that an item asks for is there. -/
theorem Uses.colons_le_count (h : item.Uses s) : item.colons ≤ s.count ':' := by
  rw [colons]
  split
  · rename_i hitem
    subst hitem
    obtain ⟨c, hc, rfl⟩ := h
    rw [List.mem_singleton] at hc
    subst hc
    decide
  · exact Nat.zero_le _

end PatternItem

namespace Pattern

variable {p : Pattern} {s : List Char}

/-- Every colon that a pattern asks for is there. -/
theorem Uses.colons_le_count (h : Uses p s) : Pattern.colons p ≤ s.count ':' := by
  induction p generalizing s with
  | nil => exact Nat.zero_le _
  | cons item p ih =>
    obtain ⟨part, rest, rfl, hpart, hrest⟩ := h
    rw [List.count_append, colons]
    exact Nat.add_le_add hpart.colons_le_count (ih hrest)

/-- A text of plain items has the colons that they ask for, and plain characters besides. -/
theorem Uses.plain (hp : p.all PatternItem.isPlain = true) (h : Uses p s) :
    s.count ':' = Pattern.colons p ∧ ∀ c ∈ s, c = ':' ∨ IsPlainChar c := by
  induction p generalizing s with
  | nil =>
    cases h
    exact ⟨rfl, nofun⟩
  | cons item p ih =>
    obtain ⟨part, rest, rfl, hpart, hrest⟩ := h
    rw [List.all_cons, Bool.and_eq_true] at hp
    obtain ⟨hcount, hchars⟩ := ih hp.2 hrest
    rw [List.count_append, hcount, colons]
    rcases hpart.plain_cases hp.1 with ⟨hcolons, rfl⟩ | ⟨hcolons, hplain⟩
    · refine ⟨by rw [hcolons]; rfl, fun c hc => ?_⟩
      rcases List.mem_append.1 hc with hc | hc
      · exact Or.inl (List.mem_singleton.1 hc)
      · exact hchars c hc
    · have hnone : part.count ':' = 0 :=
        List.count_eq_zero.2 fun hc => not_isPlainChar_colon (hplain _ hc)
      refine ⟨by rw [hcolons, hnone], fun c hc => ?_⟩
      rcases List.mem_append.1 hc with hc | hc
      · exact Or.inr (hplain c hc)
      · exact hchars c hc

theorem Uses.any_isStampLetter (hp : p.all PatternItem.isPlain = true) (h : Uses p s) :
    s.any isStampLetter = false := by
  rw [List.any_eq_false]
  intro c hc
  rcases (h.plain hp).2 c hc with rfl | hc
  · decide
  · simp only [hc.isStampLetter_eq_false, Bool.false_eq_true, not_false_eq_true]

/-- The first separator is the mark behind the first item, if that takes no other separator. -/
theorem Uses.find?_isSeparator {item : PatternItem} {c : Char}
    (h : Uses (item :: .mark [c] :: p) s) (hc : isSeparator c = true)
    (hitem : ∀ part, item.Uses part → ∀ e ∈ part, isSeparator e = true → e = c) :
    s.find? isSeparator = some c := by
  obtain ⟨part, rest, rfl, hpart, mark, rest, rfl, ⟨d, hd, rfl⟩, -⟩ := h
  obtain rfl := (List.mem_singleton.1 hd).symm
  rw [List.find?_append, List.singleton_append, List.find?_cons_of_pos hc]
  cases hfind : part.find? isSeparator with
  | none => rfl
  | some e =>
    rw [hitem part hpart e (List.mem_of_find?_eq_some hfind) (List.find?_some hfind)]
    rfl

/-- The sign of a year is a separator too, so a year has to stand before a hyphen. -/
theorem Uses.find?_isSeparator_number {unit : TimeUnit} {c : Char}
    (h : Uses (.number unit :: .mark [c] :: p) s) (hc : isSeparator c = true)
    (hunit : unit = .year → c = '-') : s.find? isSeparator = some c := by
  refine h.find?_isSeparator hc fun part hpart e he hsep => ?_
  obtain ⟨hblank, hdigit⟩ := not_isBlank_of_isSeparator hsep
  have hcases := TimeUnit.Uses.char_cases hpart e he
  rw [hblank, hdigit] at hcases
  obtain ⟨hyear, rfl | rfl⟩ : unit = .year ∧ (e = '-' ∨ e = '+') := by simpa using hcases
  · exact (hunit hyear).symm
  · exact absurd hsep (by decide)

/-- The outline of a text of plain items that begins with a number and a separator. -/
theorem Uses.outline {unit : TimeUnit} {c : Char} (h : Uses (.number unit :: .mark [c] :: p) s)
    (hp : (PatternItem.number unit :: .mark [c] :: p).all PatternItem.isPlain = true)
    (hc : isSeparator c = true) (hunit : unit = .year → c = '-') :
    Outline.ofText s =
      { separator := some c, colons := Pattern.colons (.number unit :: .mark [c] :: p),
        lettered := false } := by
  rw [Outline.ofText, h.find?_isSeparator_number hc hunit, (h.plain hp).1, h.any_isStampLetter hp]

end Pattern

/-! ## Texts that open with a year -/

theorem isDigit_of_opensWithYear {s : List Char} (h : opensWithYear s = true) :
    ∃ a b c d mark t, s = a :: b :: c :: d :: mark :: t ∧
      (∀ e ∈ [a, b, c, d], e.isDigit = true) ∧ (mark = '-' ∨ mark = '/') := by
  rw [opensWithYear.eq_def] at h
  split at h
  · rename_i a b c d mark t
    simp only [Bool.and_eq_true, Bool.or_eq_true, beq_iff_eq] at h
    refine ⟨a, b, c, d, mark, t, rfl, ?_, h.2⟩
    simp [h]
  · cases h

/-- A number of at most two digits and a mark behind it are no year. -/
theorem Pattern.Uses.opensWithYear {p : Pattern} {s : List Char} {unit : TimeUnit} {c : Char}
    (h : Uses (.number unit :: .mark [c] :: p) s) (hc : c.isDigit = false) (hunit : unit ≠ .year) :
    opensWithYear s = false := by
  rw [← Bool.not_eq_true]
  intro hopens
  obtain ⟨a, b, e, f, mark, t, rfl, hdigits, hmark⟩ := isDigit_of_opensWithYear hopens
  have hnext : NoDigitNext (mark :: t) := by
    rcases hmark with rfl | rfl
    · exact noDigitNext_cons (by decide) t
    · exact noDigitNext_cons (by decide) t
  have hyear : Uses (.number unit :: .mark [c] :: p) ([a, b, e, f] ++ mark :: t) := h
  have hfour := (hyear.exists_of_number_mark hunit hc hdigits (List.cons_ne_nil _ _) hnext).1
  simp at hfour

theorem replaceFirst_append_of_not_mem {old new : Char} {s : List Char} (h : old ∉ s) (n : Nat)
    (t : List Char) : replaceFirst n old new (s ++ t) = s ++ replaceFirst n old new t := by
  induction s with
  | nil => rfl
  | cons c s ih =>
    obtain ⟨hc, hs⟩ := not_or.1 (List.mem_cons.not.1 h)
    cases n with
    | zero => cases t <;> rfl
    | succ n => rw [List.cons_append, replaceFirst, if_neg (Ne.symm hc), ih hs, List.cons_append]

theorem not_mem_of_isDigit {ds : List Char} (h : ∀ c ∈ ds, c.isDigit = true) {c : Char}
    (hc : c.isDigit = false) : c ∉ ds := by
  intro hmem
  rw [h c hmem] at hc
  cases hc

/-- The year of a uniform text is as it was, with a hyphen behind it. -/
theorem exists_yearFirst_eq {s : List Char} (h : opensWithYear s = true) :
    ∃ ds t, yearFirst s = ds ++ '-' :: t ∧ ∀ c ∈ ds, c.isDigit = true := by
  obtain ⟨a, b, c, d, mark, t, rfl, hdigits, hmark⟩ := isDigit_of_opensWithYear h
  have hslashes : ∃ t', replaceFirst 2 '/' '-' (mark :: t) = ['-'] ++ t' := by
    rcases hmark with rfl | rfl
    · exact ⟨replaceFirst 2 '/' '-' t, rfl⟩
    · exact ⟨replaceFirst 1 '/' '-' t, rfl⟩
  obtain ⟨t', hslashes⟩ := hslashes
  have hyear : a :: b :: c :: d :: mark :: t = [a, b, c, d] ++ mark :: t := rfl
  have hcomma : [a, b, c, d].map (fun c => if c = ',' then '.' else c) = [a, b, c, d].map id :=
    List.map_congr_left fun e he =>
      if_neg (ne_of_mem_of_not_mem he (not_mem_of_isDigit hdigits (by decide)))
  refine ⟨[a, b, c, d], (replaceFirst 1 'T' ' ' t').map fun c => if c = ',' then '.' else c, ?_,
    hdigits⟩
  rw [yearFirst, if_pos h, hyear,
    replaceFirst_append_of_not_mem (not_mem_of_isDigit hdigits (by decide)), hslashes,
    replaceFirst_append_of_not_mem (not_mem_of_isDigit hdigits (by decide)),
    replaceFirst_append_of_not_mem (by decide), List.map_append, hcomma, List.map_id]
  rfl

/-- The first separator of a uniform text that opens with a year is a hyphen. -/
theorem find?_isSeparator_yearFirst {s : List Char} (h : opensWithYear s = true) :
    (yearFirst s).find? isSeparator = some '-' := by
  obtain ⟨ds, t, heq, hds⟩ := exists_yearFirst_eq h
  have hnone : ds.find? isSeparator = none := by
    rw [List.find?_eq_none]
    intro c hc hsep
    have hdigit := (not_isBlank_of_isSeparator hsep).2
    rw [hds c hc] at hdigit
    cases hdigit
  rw [heq, List.find?_append, hnone, Option.none_or]
  rfl

/-- Making separators uniform leaves every other character where it was. -/
theorem count_replaceFirst {old new c : Char} (hold : c ≠ old) (hnew : c ≠ new) (n : Nat)
    (s : List Char) : (replaceFirst n old new s).count c = s.count c := by
  induction s generalizing n with
  | nil => rfl
  | cons d s ih =>
    cases n with
    | zero => rfl
    | succ n =>
      rw [replaceFirst]
      split
      · rename_i heq
        rw [heq, List.count_cons_of_ne (Ne.symm hnew), List.count_cons_of_ne (Ne.symm hold), ih]
      · rw [List.count_cons, List.count_cons, ih]

theorem count_yearFirst {c : Char} (hc : c ∉ ['/', '-', 'T', ' ', ',', '.']) (s : List Char) :
    (yearFirst s).count c = s.count c := by
  simp only [List.mem_cons, List.not_mem_nil, or_false, not_or] at hc
  obtain ⟨hslash, hhyphen, hmark, hspace, hcomma, hpoint⟩ := hc
  have hmap : ∀ s : List Char, (s.map fun d => if d = ',' then '.' else d).count c = s.count c := by
    intro s
    rw [List.count_eq_countP, List.countP_map]
    refine List.countP_congr fun d _ => ?_
    simp only [Function.comp_apply, beq_iff_eq]
    split
    · rename_i heq
      simp only [heq, Ne.symm hpoint, Ne.symm hcomma]
    · rfl
  rw [yearFirst]
  split
  · rw [hmap, count_replaceFirst hmark hspace, count_replaceFirst hslash hhyphen]
  · rfl

theorem mem_yearFirst_iff {c : Char} (hc : c ∉ ['/', '-', 'T', ' ', ',', '.']) (s : List Char) :
    c ∈ yearFirst s ↔ c ∈ s := by
  rw [← List.count_pos_iff, count_yearFirst hc, List.count_pos_iff]

/-- A text whose first separator is a hyphen keeps its outline. -/
theorem Outline.ofText_yearFirst {s : List Char} (h : (ofText s).separator = some '-') :
    ofText (yearFirst s) = ofText s := by
  have hseparator : (yearFirst s).find? isSeparator = s.find? isSeparator := by
    cases hopens : opensWithYear s with
    | true => exact (find?_isSeparator_yearFirst hopens).trans h.symm
    | false => rw [yearFirst, if_neg (by simp [hopens])]
  have hlettered : (yearFirst s).any isStampLetter = s.any isStampLetter := by
    have hletter : ∀ c ∈ ['Z', 'z', 'M', 'm'], c ∉ ['/', '-', 'T', ' ', ',', '.'] := by decide
    rw [Bool.eq_iff_iff, List.any_eq_true, List.any_eq_true]
    refine exists_congr fun c => and_congr_left fun hc => ?_
    rw [isStampLetter, List.contains_iff_mem] at hc
    exact mem_yearFirst_iff (hletter c hc) s
  rw [ofText, hseparator, count_yearFirst (by decide), hlettered]
  rfl

/-! ## The kind of a text that a form reads -/

theorem Pattern.uses_of_read {p : Pattern} {s : List Char} {t : Timestamp}
    (h : (p.read s).toOption = some t) : Uses p s := by
  cases hread : p.readFrom {} s with
  | error e =>
    rw [Pattern.read, hread] at h
    cases h
  | ok r => exact uses_of_readFrom hread

namespace StampKind

variable {p : Pattern} {s : List Char} {unit : TimeUnit} {c : Char}

/-- A text that does not open with a year is not changed. -/
theorem ofText_of_uses (h : Pattern.Uses (.number unit :: .mark [c] :: p) s)
    (hc : c.isDigit = false) (hunit : unit ≠ .year) : ofText s = (Outline.ofText s).kind := by
  rw [ofText, LogDigest.yearFirst, h.opensWithYear hc hunit]
  rfl

/-- The kind of a text of plain items that begins with two digits and a separator. -/
theorem ofText_of_plain (h : Pattern.Uses (.number unit :: .mark [c] :: p) s)
    (hp : (PatternItem.number unit :: .mark [c] :: p).all PatternItem.isPlain = true)
    (hc : isSeparator c = true) (hunit : unit ≠ .year) :
    ofText s = Outline.kind ⟨some c, Pattern.colons (.number unit :: .mark [c] :: p), false⟩ := by
  rw [ofText_of_uses h (not_isBlank_of_isSeparator hc).2 hunit,
    h.outline hp hc fun hyear => absurd hyear hunit]

/-- The standard has hyphens, and besides two colons a third one or the letter of universal time. -/
theorem ofText_standard (h : Pattern.Uses .standard s) : ofText s = .standard := by
  have hseparator : s.find? isSeparator = some '-' := by
    refine Pattern.Uses.find?_isSeparator h rfl fun part hpart e he hsep => ?_
    have hdigit := (not_isBlank_of_isSeparator hsep).2
    rw [hpart.2 e he] at hdigit
    cases hdigit
  have hzone : s.any isStampLetter = true ∨ 3 ≤ s.count ':' := by
    have hsplit : Pattern.standard = Pattern.standard.dropLast ++ [.zone] := rfl
    rw [hsplit, Pattern.uses_append] at h
    obtain ⟨a, b, rfl, ha, part, rest, rfl, hpart, rfl⟩ := h
    have htwo : 2 ≤ a.count ':' := ha.colons_le_count
    rw [List.append_nil]
    rcases hpart with rfl | rfl | hcolon
    · exact Or.inl (List.any_eq_true.2 ⟨'Z', by simp, rfl⟩)
    · exact Or.inl (List.any_eq_true.2 ⟨'z', by simp, rfl⟩)
    · have hone := List.count_pos_iff.2 hcolon
      refine Or.inr ?_
      rw [List.count_append]
      omega
  rw [ofText, Outline.ofText_yearFirst hseparator, Outline.ofText, Outline.kind, hseparator,
    if_neg (by simp), if_neg (by simp), if_pos hzone]

/-- The common log form has slashes and three colons at least. -/
theorem ofText_commonLog (h : Pattern.Uses .commonLog s) : ofText s = .commonLog := by
  have hseparator : s.find? isSeparator = some '/' :=
    Pattern.Uses.find?_isSeparator_number h rfl nofun
  have hcolons : 3 ≤ s.count ':' := h.colons_le_count
  rw [ofText_of_uses h rfl nofun, Outline.ofText, Outline.kind, hseparator, if_pos rfl,
    if_pos hcolons]

theorem eq_of_toLower_eq_m {c : Char} (h : c.toLower = 'm') : c = 'm' ∨ c = 'M' := by
  by_cases hcapital : c.val ≥ 65 ∧ c.val ≤ 90
  · have hlower : c.toLower.val = c.val + 32 := congrArg Char.val (dif_pos hcapital)
    have hval : c.val + 32 - 32 = 109 - 32 := by rw [← hlower, h]; rfl
    rw [UInt32.add_sub_cancel] at hval
    exact Or.inr (Char.ext hval)
  · have hsame : c.toLower = c := dif_neg hcapital
    exact Or.inl (hsame.symm.trans h)

/-- A half day is named by two letters, the second of which tells it from all numbers. -/
theorem any_isStampLetter_of_halfDay {part : List Char} (h : PatternItem.halfDay.Uses part) :
    part.any isStampLetter = true ∧ part.count ':' = 0 := by
  have hcolon : ':' ∉ part := by
    intro hmem
    have hlower := List.mem_map_of_mem (f := Char.toLower) hmem
    rcases h with h | h <;> rw [h] at hlower <;> revert hlower <;> decide
  have hm : 'm' ∈ part.map Char.toLower := by
    rcases h with h | h <;> rw [h] <;> decide
  obtain ⟨d, hd, hlower⟩ := List.mem_map.1 hm
  refine ⟨List.any_eq_true.2 ⟨d, hd, ?_⟩, List.count_eq_zero.2 hcolon⟩
  rcases eq_of_toLower_eq_m hlower with rfl | rfl <;> rfl

/-- On the clock of twelve hours a date with slashes has letters behind it. -/
theorem ofText_halfDay (h : Pattern.Uses .monthFirstHalfDay s) : ofText s = .halfDay := by
  have hseparator : s.find? isSeparator = some '/' :=
    Pattern.Uses.find?_isSeparator_number h rfl nofun
  have hkind := ofText_of_uses h rfl nofun
  have hsplit : Pattern.monthFirstHalfDay = Pattern.monthFirstHalfDay.dropLast ++ [.halfDay] := rfl
  rw [hsplit, Pattern.uses_append] at h
  obtain ⟨a, b, rfl, ha, part, rest, rfl, hpart, rfl⟩ := h
  obtain ⟨hletter, hcolon⟩ := any_isStampLetter_of_halfDay hpart
  have hcount : a.count ':' = 2 := (ha.plain (by decide)).1
  rw [hkind, Outline.ofText, hseparator, List.append_nil, List.any_append, List.count_append,
    hletter, hcolon, hcount, Bool.or_true]
  rfl

/-- A bare date with hyphens has no colon. -/
theorem ofText_yearFirstDate (h : Pattern.Uses .yearFirstDate s) : ofText s = .yearFirstDate := by
  have houtline : Outline.ofText s = ⟨some '-', 0, false⟩ :=
    Pattern.Uses.outline h (by decide) rfl fun _ => rfl
  rw [ofText, Outline.ofText_yearFirst (by rw [houtline]), houtline]
  rfl

theorem mem_forms_of_eq {form : StampForm} {kind : StampKind} (h : ofText s = kind)
    (hform : form ∈ kind.forms) : form ∈ (ofText s).forms := by
  rw [h]
  exact hform

end StampKind

namespace StampForm

/-- **A form reads only texts of its kind.** -/
theorem mem_forms_of_read? {form : StampForm} (hform : form ∈ all) {s : List Char} {t : Timestamp}
    (h : form.read? s = some t) : form ∈ (StampKind.ofText s).forms := by
  have huses := Pattern.uses_of_read h
  simp only [all, List.mem_cons, List.not_mem_nil, or_false] at hform
  rcases hform with rfl | rfl | rfl | rfl | rfl | rfl | rfl | rfl | rfl | rfl | rfl | rfl | rfl
  case inl => exact StampKind.mem_forms_of_eq (StampKind.ofText_standard huses) (by decide)
  case inr.inl => exact StampKind.mem_forms_of_eq (StampKind.ofText_commonLog huses) (by decide)
  -- The year-first forms read the uniform text.
  iterate 3
    exact StampKind.mem_forms_of_eq
      (congrArg Outline.kind (huses.outline (by decide) rfl fun _ => rfl)) (by decide)
  iterate 2
    exact StampKind.mem_forms_of_eq (StampKind.ofText_of_plain huses (by decide) rfl (by decide))
      (by decide)
  · exact StampKind.mem_forms_of_eq (StampKind.ofText_halfDay huses) (by decide)
  iterate 2
    exact StampKind.mem_forms_of_eq (StampKind.ofText_of_plain huses (by decide) rfl (by decide))
      (by decide)
  · exact StampKind.mem_forms_of_eq (StampKind.ofText_yearFirstDate huses) (by decide)
  iterate 2
    exact StampKind.mem_forms_of_eq (StampKind.ofText_of_plain huses (by decide) rfl (by decide))
      (by decide)

theorem read?_eq_none {form : StampForm} (hform : form ∈ all) {s : List Char}
    (h : form ∉ (StampKind.ofText s).forms) : form.read? s = none := by
  cases hread : form.read? s with
  | none => rfl
  | some t => exact absurd (mem_forms_of_read? hform hread) h

/-- Of any forms only those of the text's kind count. -/
theorem findSome?_read? {forms : List StampForm} (h : ∀ form ∈ forms, form ∈ all) (s : List Char) :
    forms.findSome? (·.read? s) =
      (forms.filter ((StampKind.ofText s).forms.contains ·)).findSome? (·.read? s) := by
  induction forms with
  | nil => rfl
  | cons form forms ih =>
    have hrest := ih fun g hg => h g (List.mem_cons_of_mem _ hg)
    rw [List.findSome?_cons, List.filter_cons]
    split
    · rename_i t hread
      rw [if_pos (List.contains_iff_mem.2 (mem_forms_of_read? (h form List.mem_cons_self) hread)),
        List.findSome?_cons, hread]
    · rename_i hread
      rw [hrest]
      split
      · rw [List.findSome?_cons, hread]
      · rfl

end StampForm

/-- **Trying all forms is trying those of the kind.** -/
theorem Timestamp.ofText?_eq_forms (s : List Char) :
    ofText? s = (StampKind.ofText (trim s)).forms.findSome? (·.read? (trim s)) := by
  rw [ofText?, StampForm.findSome?_read? fun _ h => h, StampKind.filter_forms]

end LogDigest
