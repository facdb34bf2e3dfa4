import LogDigest.Line.Combined
import LogDigest.Proofs.Numeral

/-!
# The grammar of combined lines

A combined line is read if and only if it holds parts of the right shape somewhere
(`CombinedParts.Splits`), and then the parts are those that begin first and have the longest runs of
digits (`CombinedParts.Leads`).

**Readers.** Each reader of a part is described by one equivalence: what it takes, what it leaves,
and what the rest must not go on with. A run that the grammar lets end anywhere ends for the reader
where its class of characters ends, and every mark behind a run is outside of its class; so only the
size, behind which anything may stand, can end too early.

**One reading.** Parts of the right shape are therefore read from their own text, with the digits
behind the size drawn into it (`CombinedParts.longest`). Two ways to split a line at one place
differ in the size at most, and the reader finds the one with the longest.
-/

namespace LogDigest

open Text

namespace CombinedParts

/-! ## The grammar -/

/-- A non-empty run of characters of a class. -/
def IsRun (p : Char → Bool) (s : List Char) : Prop := s ≠ [] ∧ ∀ c ∈ s, p c = true

/-- Four runs of digits with points between them. -/
def IsAddress (s : List Char) : Prop :=
  ∃ a b c d, IsRun isDecimalDigit a ∧ IsRun isDecimalDigit b ∧ IsRun isDecimalDigit c ∧
    IsRun isDecimalDigit d ∧ s = a ++ '.' :: (b ++ '.' :: (c ++ '.' :: d))

/-- Each part is of its shape. -/
structure WellFormed (p : CombinedParts) : Prop where
  ip : IsAddress p.ip
  user : IsRun (fun c => !isBlank c) p.user
  timestamp : ']' ∉ p.timestamp
  request : '"' ∉ p.request
  status : IsRun isDecimalDigit p.status
  size : IsRun isDecimalDigit p.size ∨ p.size = ['-']
  rest : '\n' ∉ p.rest

/-- The text of the parts with the marks between them. -/
def text (p : CombinedParts) : List Char :=
  p.ip ++ ' ' :: '-' :: ' ' :: (p.user ++ ' ' :: '[' :: (p.timestamp ++ ']' :: ' ' :: '"' ::
    (p.request ++ '"' :: ' ' :: (p.status ++ ' ' :: (p.size ++ p.rest)))))

/-- The line holds these parts behind `pre`. -/
structure Splits (line pre : List Char) (p : CombinedParts) : Prop where
  wellFormed : p.WellFormed
  line_eq : line = pre ++ p.text

/-- Of all ways to split the line this is the one that begins first and whose runs of digits are
longest. -/
structure Leads (line pre : List Char) (p : CombinedParts) : Prop where
  splits : Splits line pre p
  first : ∀ pre' q, Splits line pre' q → pre.length ≤ pre'.length
  longest : ∀ q, Splits line pre q → q.ip.length ≤ p.ip.length ∧
    q.status.length ≤ p.status.length ∧ q.size.length ≤ p.size.length

/-! ## Readers -/

variable {p : Char → Bool} {c : Char} {s t a : List Char}

theorem run?_eq_some_iff :
    run? p s = some (a, t) ↔ IsRun p a ∧ s = a ++ t ∧ EndsRun p t := by
  have hspan : s.span p = (s.takeWhile p, s.dropWhile p) := List.span_eq_takeWhile_dropWhile p s
  constructor
  · intro h
    rw [run?, hspan] at h
    split at h
    · cases h
    · rename_i hne
      cases h
      refine ⟨⟨fun hnil => hne _ (by rw [hnil]), fun c hc => ?_⟩,
        (List.takeWhile_append_dropWhile).symm, endsRun_dropWhile p s⟩
      exact List.mem_takeWhile_imp hc
  · rintro ⟨⟨hne, ha⟩, rfl, ht⟩
    rw [run?, hspan, takeWhile_append_of_endsRun ha ht, dropWhile_append_of_endsRun ha ht]
    split
    · rename_i hnil
      cases hnil
      exact absurd rfl hne
    · rfl

theorem after?_eq_some_iff {mark : List Char} : after? mark s = some t ↔ s = mark ++ t := by
  induction mark generalizing s with
  | nil => simp [after?]
  | cons c mark ih =>
    cases s with
    | nil => simp [after?]
    | cons d s =>
      rw [after?]
      by_cases hc : c = d
      · rw [if_pos hc, ih, hc, List.cons_append, List.cons.injEq]
        exact (and_iff_right rfl).symm
      · rw [if_neg hc]
        simp [Ne.symm hc]

/-- What stands before the first of a character, and what begins with it. -/
theorem cutAt_append (hc : c ∉ a) (t : List Char) :
    (a ++ c :: t).takeWhile (fun d => d != c) = a ∧
      (a ++ c :: t).dropWhile (fun d => d != c) = c :: t := by
  have ha : ∀ d ∈ a, (d != c) = true := fun d hd => by
    rw [bne_iff_ne]
    exact fun h => hc (h ▸ hd)
  have hend : EndsRun (fun d => d != c) (c :: t) := endsRun_cons (by simp) t
  exact ⟨takeWhile_append_of_endsRun ha hend, dropWhile_append_of_endsRun ha hend⟩

theorem eq_append_of_cutAt (htake : s.takeWhile (fun d => d != c) = a)
    (hdrop : s.dropWhile (fun d => d != c) = c :: t) : c ∉ a ∧ s = a ++ c :: t := by
  subst htake
  refine ⟨fun hc => ?_, ?_⟩
  · simpa using List.mem_takeWhile_imp hc
  · rw [← hdrop, List.takeWhile_append_dropWhile]

theorem address?_eq_some_iff :
    address? s = some (a, t) ↔ IsAddress a ∧ s = a ++ t ∧ EndsRun isDecimalDigit t := by
  have hpoint : isDecimalDigit '.' = false := by decide
  simp only [address?, Option.bind_eq_bind, Option.bind_eq_some_iff, Prod.exists,
    run?_eq_some_iff, after?_eq_some_iff, Option.pure_def, Option.some.injEq, Prod.mk.injEq]
  constructor
  · rintro ⟨i, s₁, ⟨hi, rfl, -⟩, s₂, rfl, j, s₃, ⟨hj, rfl, -⟩, s₄, rfl, k, s₅, ⟨hk, rfl, -⟩, s₆,
      rfl, l, s₇, ⟨hl, rfl, ht⟩, rfl, rfl⟩
    exact ⟨⟨i, j, k, l, hi, hj, hk, hl, by simp⟩, by simp, ht⟩
  · rintro ⟨⟨i, j, k, l, hi, hj, hk, hl, rfl⟩, rfl, ht⟩
    refine ⟨i, '.' :: (j ++ '.' :: (k ++ '.' :: (l ++ t))), ⟨hi, by simp, endsRun_cons hpoint _⟩, _,
      rfl, j, _, ⟨hj, rfl, endsRun_cons hpoint _⟩, _, rfl, k, _, ⟨hk, rfl, endsRun_cons hpoint _⟩,
      _, rfl, l, t, ⟨hl, rfl, ht⟩, by simp, rfl⟩

theorem sizeField?_eq_some_iff :
    sizeField? s = some (a, t) ↔
      (IsRun isDecimalDigit a ∧ s = a ++ t ∧ EndsRun isDecimalDigit t) ∨
        (a = ['-'] ∧ s = a ++ t) := by
  rw [sizeField?]
  cases hrun : run? isDecimalDigit s with
  | some r =>
    obtain ⟨b, u⟩ := r
    have hb := run?_eq_some_iff.1 hrun
    rw [← run?_eq_some_iff, hrun, Option.some.injEq, Prod.mk.injEq]
    refine ⟨Or.inl, ?_⟩
    rintro (h | ⟨rfl, rfl⟩)
    · exact h
    · obtain ⟨⟨hne, hdigits⟩, happend, -⟩ := hb
      cases b with
      | nil => exact absurd rfl hne
      | cons d b =>
        cases happend
        exact absurd (hdigits _ List.mem_cons_self) (by decide)
  | none =>
    rw [← run?_eq_some_iff, hrun]
    simp only [Option.map_eq_some_iff, after?_eq_some_iff, Prod.mk.injEq, reduceCtorEq, false_or]
    constructor
    · rintro ⟨u, rfl, rfl, rfl⟩
      exact ⟨rfl, rfl⟩
    · rintro ⟨rfl, rfl⟩
      exact ⟨t, rfl, rfl, rfl⟩

/-! ## Reading from one place -/

/-- Nothing more could be drawn into the size. -/
def SizeEnds (p : CombinedParts) : Prop :=
  IsRun isDecimalDigit p.size → EndsRun isDecimalDigit p.rest

/-- The reader finds the parts that make up the text, with the longest size. -/
theorem readHere?_eq_some_iff {s : List Char} {p : CombinedParts} :
    readHere? s = some p ↔ p.WellFormed ∧ s = p.text ∧ p.SizeEnds := by
  simp only [readHere?, Option.bind_eq_bind, Option.bind_eq_some_iff, Prod.exists,
    run?_eq_some_iff, after?_eq_some_iff, address?_eq_some_iff, sizeField?_eq_some_iff,
    List.span_eq_takeWhile_dropWhile, Option.pure_def]
  constructor
  · rintro ⟨ip, s₁, ⟨hip, rfl, -⟩, s₂, rfl, user, s₃, ⟨huser, rfl, -⟩, s₄, rfl, s₅, hstamp, s₆,
      hrequest, status, s₇, ⟨hstatus, rfl, -⟩, s₈, rfl, size, rest, hsize, hp⟩
    generalize hstamp' : s₄.takeWhile (fun c => c != ']') = stamp at hp
    generalize hrequest' : s₅.takeWhile (fun c => c != '"') = request at hp
    obtain ⟨hstampEnd, rfl⟩ := eq_append_of_cutAt hstamp' hstamp
    obtain ⟨hrequestEnd, rfl⟩ := eq_append_of_cutAt hrequest' hrequest
    split at hp
    · cases hp
    · rename_i hrest
      cases hp
      have hsizeText : s₈ = size ++ rest := by rcases hsize with ⟨-, h, -⟩ | ⟨-, h⟩ <;> exact h
      refine ⟨⟨hip, huser, hstampEnd, hrequestEnd, hstatus, ?_, by simpa using hrest⟩, ?_, ?_⟩
      · exact hsize.imp And.left And.left
      · rw [hsizeText]
        rfl
      · intro hdigits
        rcases hsize with ⟨-, -, hend⟩ | ⟨rfl, -⟩
        · exact hend
        · exact absurd (hdigits.2 _ List.mem_cons_self) (by decide)
  · rintro ⟨h, rfl, hend⟩
    have hspace : isDecimalDigit ' ' = false := by decide
    obtain ⟨hstamp, hstamp'⟩ := cutAt_append h.timestamp
      (' ' :: '"' :: (p.request ++ '"' :: ' ' :: (p.status ++ ' ' :: (p.size ++ p.rest))))
    obtain ⟨hrequest, hrequest'⟩ := cutAt_append h.request
      (' ' :: (p.status ++ ' ' :: (p.size ++ p.rest)))
    refine ⟨p.ip, _, ⟨h.ip, rfl, endsRun_cons hspace _⟩, _, rfl, p.user, _,
      ⟨h.user, rfl, endsRun_cons (by decide) _⟩, _, rfl, _, hstamp', _, hrequest', p.status, _,
      ⟨h.status, rfl, endsRun_cons hspace _⟩, _, rfl, p.size, p.rest, ?_, ?_⟩
    · exact h.size.imp (fun hdigits => ⟨hdigits, rfl, hend hdigits⟩) fun hsize => ⟨hsize, rfl⟩
    · have hrest : ¬ p.rest.contains '\n' = true := by simpa using h.rest
      rw [if_neg hrest, List.append_eq, List.append_eq, hstamp, hrequest]

/-- The parts with the digits behind the size drawn into it. -/
def longest (p : CombinedParts) : CombinedParts :=
  if p.size = ['-'] then p
  else
    { p with
      size := p.size ++ p.rest.takeWhile isDecimalDigit
      rest := p.rest.dropWhile isDecimalDigit }

theorem not_isRun_hyphen : ¬ IsRun isDecimalDigit ['-'] := fun h =>
  absurd (h.2 _ List.mem_cons_self) (by decide)

/-- Parts of the right shape are read from their text, with the longest size. -/
theorem WellFormed.readHere?_text {p : CombinedParts} (h : p.WellFormed) :
    readHere? p.text = some p.longest := by
  rw [readHere?_eq_some_iff, longest]
  split
  · rename_i hsize
    refine ⟨h, rfl, fun hdigits => ?_⟩
    rw [hsize] at hdigits
    exact absurd hdigits not_isRun_hyphen
  · rename_i hsize
    obtain ⟨hne, hdigits⟩ := h.size.resolve_right hsize
    have hrest : '\n' ∉ p.rest.dropWhile isDecimalDigit := fun hmem =>
      h.rest ((List.dropWhile_sublist _).mem hmem)
    have hrun : IsRun isDecimalDigit (p.size ++ p.rest.takeWhile isDecimalDigit) := by
      refine ⟨List.append_ne_nil_of_left_ne_nil hne _, List.forall_mem_append.2 ⟨hdigits, ?_⟩⟩
      exact fun c hc => List.mem_takeWhile_imp hc
    refine ⟨{ h with size := Or.inl hrun, rest := hrest }, ?_, fun _ => endsRun_dropWhile _ _⟩
    simp only [text, List.append_assoc, List.takeWhile_append_dropWhile]

/-! ## Reading from the first place -/

/-- The reading of a text from its first place is that from one of its places, and nothing can be
read from an earlier one. -/
theorem find?_eq_some_iff_readHere? {line : List Char} {p : CombinedParts} :
    find? line = some p ↔ ∃ pre s, line = pre ++ s ∧ readHere? s = some p ∧
      ∀ pre' s', line = pre' ++ s' → (readHere? s').isSome → pre.length ≤ pre'.length := by
  induction line with
  | nil =>
    have hnil : readHere? [] = none := rfl
    simp [find?, hnil]
  | cons c line ih =>
    rw [find?]
    cases hhere : readHere? (c :: line) with
    | some q =>
      constructor
      · intro h
        cases h
        exact ⟨[], _, rfl, hhere, fun _ _ _ _ => Nat.zero_le _⟩
      · rintro ⟨pre, s, hline, hs, hfirst⟩
        have hzero := hfirst [] _ rfl (by rw [hhere]; rfl)
        rw [List.length_nil, Nat.le_zero, List.length_eq_zero_iff] at hzero
        rw [hzero, List.nil_append] at hline
        rw [← hhere, hline, hs]
    | none =>
      dsimp only
      rw [ih]
      constructor
      · rintro ⟨pre, s, rfl, hs, hfirst⟩
        refine ⟨c :: pre, s, rfl, hs, fun pre' s' hline hsome => ?_⟩
        cases pre' with
        | nil =>
          rw [← List.nil_append s', ← hline, hhere] at hsome
          cases hsome
        | cons d pre' =>
          exact Nat.succ_le_succ (hfirst pre' s' (List.cons.inj hline).2 hsome)
      · rintro ⟨pre, s, hline, hs, hfirst⟩
        cases pre with
        | nil =>
          rw [← List.nil_append s, ← hline, hhere] at hs
          cases hs
        | cons d pre =>
          cases hline
          exact ⟨pre, s, rfl, hs, fun pre' s' hline hsome => Nat.le_of_succ_le_succ
            (hfirst (c :: pre') s' (by rw [hline]; rfl) hsome)⟩

/-- At a place there is something to read if the line holds parts there. -/
theorem isSome_readHere?_iff {s : List Char} :
    (readHere? s).isSome ↔ ∃ q : CombinedParts, q.WellFormed ∧ s = q.text := by
  constructor
  · intro h
    obtain ⟨q, hq⟩ := Option.isSome_iff_exists.1 h
    obtain ⟨hwf, htext, -⟩ := readHere?_eq_some_iff.1 hq
    exact ⟨q, hwf, htext⟩
  · rintro ⟨q, hwf, rfl⟩
    rw [hwf.readHere?_text]
    rfl

theorem longest_le (p : CombinedParts) :
    p.longest.ip = p.ip ∧ p.longest.status = p.status ∧
      p.size.length ≤ p.longest.size.length := by
  rw [longest]
  split
  · exact ⟨rfl, rfl, Nat.le_refl _⟩
  · refine ⟨rfl, rfl, ?_⟩
    rw [List.length_append]
    exact Nat.le_add_right _ _

theorem longest_eq_of_length_le {p : CombinedParts} (h : p.longest.size.length ≤ p.size.length) :
    p.longest = p := by
  rw [longest] at h ⊢
  split
  · rfl
  · rename_i hsize
    rw [if_neg hsize, List.length_append] at h
    have hnone : p.rest.takeWhile isDecimalDigit = [] := by
      rw [← List.length_eq_zero_iff]
      omega
    have hall := List.takeWhile_append_dropWhile (p := isDecimalDigit) (l := p.rest)
    rw [hnone, List.nil_append] at hall
    rw [hnone, List.append_nil, hall]

/-- **The reader finds the leading parts**: those that begin first and whose runs of digits are
longest. -/
theorem find?_eq_some_iff {line : List Char} {p : CombinedParts} :
    find? line = some p ↔ ∃ pre, Leads line pre p := by
  rw [find?_eq_some_iff_readHere?]
  constructor
  · rintro ⟨pre, s, rfl, hs, hfirst⟩
    obtain ⟨hwf, rfl, -⟩ := readHere?_eq_some_iff.1 hs
    refine ⟨pre, ⟨hwf, rfl⟩, fun pre' q hq => ?_, fun q hq => ?_⟩
    · exact hfirst pre' q.text hq.line_eq (isSome_readHere?_iff.2 ⟨q, hq.wellFormed, rfl⟩)
    · have htext : p.text = q.text := List.append_cancel_left hq.line_eq
      have hlongest : q.longest = p := by
        rw [htext, hq.wellFormed.readHere?_text] at hs
        exact Option.some.inj hs
      obtain ⟨hip, hstatus, hsize⟩ := longest_le q
      rw [hlongest] at hip hstatus hsize
      exact ⟨by rw [hip], by rw [hstatus], hsize⟩
  · rintro ⟨pre, ⟨⟨hwf, hline⟩, hfirst, hlongest⟩⟩
    have hread := hwf.readHere?_text
    obtain ⟨hwf', htext, -⟩ := readHere?_eq_some_iff.1 hread
    have hsize := (hlongest p.longest ⟨hwf', by rw [← htext, hline]⟩).2.2
    rw [longest_eq_of_length_le hsize] at hread
    refine ⟨pre, p.text, hline, hread, fun pre' s' hline' hsome => ?_⟩
    obtain ⟨q, hq, rfl⟩ := isSome_readHere?_iff.1 hsome
    exact hfirst pre' q ⟨hq, hline'⟩

theorem readHere?_of_find?_eq_none {line pre s : List Char} (h : find? line = none)
    (hline : line = pre ++ s) : readHere? s = none := by
  induction line generalizing pre with
  | nil =>
    obtain ⟨-, rfl⟩ := List.append_eq_nil_iff.1 hline.symm
    rfl
  | cons c line ih =>
    rw [find?] at h
    cases hhere : readHere? (c :: line) with
    | some q =>
      rw [hhere] at h
      cases h
    | none =>
      rw [hhere] at h
      cases pre with
      | nil => rw [← List.nil_append s, ← hline, hhere]
      | cons d pre => exact ih h (List.cons.inj hline).2

/-- Nothing is found only where the line holds no parts of the right shape. -/
theorem find?_eq_none_iff {line : List Char} :
    find? line = none ↔ ∀ pre p, ¬ Splits line pre p := by
  constructor
  · rintro h pre p ⟨hwf, hline⟩
    have hnone := readHere?_of_find?_eq_none h hline
    rw [hwf.readHere?_text] at hnone
    cases hnone
  · intro h
    cases hfind : find? line with
    | none => rfl
    | some p =>
      obtain ⟨pre, hleads⟩ := find?_eq_some_iff.1 hfind
      exact absurd hleads.splits (h pre p)

theorem existsUnique_leads {line pre : List Char} {p : CombinedParts} (h : Splits line pre p) :
    ∃! split : List Char × CombinedParts, Leads line split.1 split.2 := by
  cases hfind : find? line with
  | none => exact absurd h (find?_eq_none_iff.1 hfind pre p)
  | some q =>
    obtain ⟨pre', hleads⟩ := find?_eq_some_iff.1 hfind
    refine ⟨(pre', q), hleads, ?_⟩
    rintro ⟨pre'', q'⟩ hleads'
    have hq : q' = q := by
      have hsame := find?_eq_some_iff.2 ⟨pre'', hleads'⟩
      rw [hfind] at hsame
      exact (Option.some.inj hsame).symm
    subst hq
    have htext := hleads'.splits.line_eq.symm.trans hleads.splits.line_eq
    have hpre : pre'' = pre' := List.append_cancel_right htext
    rw [hpre]

/-! ## Entries -/

/-- The number that a text names if it has ASCII digits only. -/
def number? (s : List Char) : Option Nat :=
  if s.all Char.isDigit then some (Nat.ofDigitChars 10 s 0) else none

theorem IsRun.digits?_eq {s : List Char} (h : IsRun isDecimalDigit s) : digits? s = number? s := by
  have hempty : s.isEmpty = false := by
    rw [← Bool.not_eq_true, List.isEmpty_iff]
    exact h.1
  rw [digits?, number?, hempty]
  cases s.all Char.isDigit <;> rfl

theorem IsRun.exists_cons {s : List Char} (h : IsRun isDecimalDigit s) :
    ∃ c ds, s = c :: ds ∧ c ≠ '-' ∧ c ≠ '+' := by
  obtain ⟨hne, hdigits⟩ := h
  cases s with
  | nil => exact absurd rfl hne
  | cons c ds =>
    have hc := hdigits c List.mem_cons_self
    refine ⟨c, ds, rfl, ?_, ?_⟩ <;> rintro rfl <;> exact absurd hc (by decide)

/-- A status counts if it is a number of 32 bits in ASCII digits. -/
def statusOf (s : List Char) : Int32 :=
  match number? s with
  | some n => if n ≤ 2147483647 then Int32.ofNat n else -1
  | none => -1

/-- A size counts if it is a number of 64 bits in ASCII digits. -/
def sizeOf? (s : List Char) : Option UInt64 :=
  match number? s with
  | some n => if n < 18446744073709551616 then some (UInt64.ofNat n) else none
  | none => none

theorem IsRun.statusOf_eq {s : List Char} (h : IsRun isDecimalDigit s) :
    (int32? s).getD unknownStatus = statusOf s := by
  obtain ⟨c, ds, hs, hminus, hplus⟩ := h.exists_cons
  have hinteger : integer? s = (number? s).map Int.ofNat := by
    rw [hs, integer?_cons hminus hplus, ← hs, h.digits?_eq]
  rw [int32?, hinteger, statusOf]
  cases number? s with
  | none => rfl
  | some n =>
    dsimp only [Option.map_some, Option.bind_some]
    by_cases hn : n ≤ 2147483647
    · have hfits : -2147483648 ≤ Int.ofNat n ∧ Int.ofNat n ≤ 2147483647 := by
        rw [Int.ofNat_eq_natCast]
        omega
      rw [if_pos hfits, if_pos hn, Option.getD_some, Int.ofNat_eq_natCast, Int32.ofInt_eq_ofNat]
    · have hfits : ¬ (-2147483648 ≤ Int.ofNat n ∧ Int.ofNat n ≤ 2147483647) := by
        rw [Int.ofNat_eq_natCast]
        omega
      rw [if_neg hfits, if_neg hn]
      rfl

theorem WellFormed.sizeOf?_eq {p : CombinedParts} (h : p.WellFormed) :
    uint64? p.size = sizeOf? p.size := by
  rcases h.size with hsize | hsize
  · obtain ⟨c, ds, hs, -, hplus⟩ := hsize.exists_cons
    have hnatural : natural? p.size = number? p.size := by
      rw [hs, natural?_cons hplus, ← hs, hsize.digits?_eq]
    rw [uint64?, hnatural, sizeOf?]
    cases number? p.size <;> rfl
  · rw [hsize]
    decide

/-- What the parts say at a moment. -/
def described (p : CombinedParts) (t : Timestamp) : Entry where
  timestamp := t
  level := String.ofList (trim p.rest)
  message := ""
  sourceIp := some (String.ofList p.ip)
  request := some (String.ofList p.request)
  statusCode := statusOf p.status
  threadId := none
  source := none
  user := if p.user = ['-'] then none else some (String.ofList p.user)
  size := sizeOf? p.size

theorem WellFormed.entry?_eq {p : CombinedParts} (h : p.WellFormed) :
    p.entry? = (Timestamp.ofText? p.timestamp).map p.described := by
  rw [CombinedParts.entry?, h.sizeOf?_eq, h.status.statusOf_eq]
  rfl

end CombinedParts

open CombinedParts

/-- **Combined lines follow their grammar.** A line that can be split has one leading split, and it
is an entry if and only if the brackets of that split hold a moment. The entry says what the parts
say: a status or a size counts if it is written in ASCII digits and fits its width. -/
theorem Entry.ofCombinedLine?_follows_grammar (line : List Char) :
    ((∃ pre p, Splits line pre p) ↔
        ∃! split : List Char × CombinedParts, Leads line split.1 split.2) ∧
      ∀ e, ofCombinedLine? line = some e ↔
        ∃ pre p t, Leads line pre p ∧ Timestamp.ofText? p.timestamp = some t ∧
          e = p.described t := by
  refine ⟨⟨fun ⟨pre, p, h⟩ => existsUnique_leads h, fun ⟨split, h, _⟩ => ⟨_, _, h.splits⟩⟩, ?_⟩
  intro e
  rw [ofCombinedLine?, Option.bind_eq_some_iff]
  constructor
  · rintro ⟨p, hfind, hentry⟩
    obtain ⟨pre, hleads⟩ := find?_eq_some_iff.1 hfind
    rw [hleads.splits.wellFormed.entry?_eq, Option.map_eq_some_iff] at hentry
    obtain ⟨t, ht, rfl⟩ := hentry
    exact ⟨pre, p, t, hleads, ht, rfl⟩
  · rintro ⟨pre, p, t, hleads, ht, rfl⟩
    refine ⟨p, find?_eq_some_iff.2 ⟨pre, hleads⟩, ?_⟩
    rw [hleads.splits.wellFormed.entry?_eq, ht, Option.map_some]

/-! ### Digits of other scripts -/

/-- The value of a digit of any script: its place in its row of ten. -/
def digitValue (c : Char) : Nat :=
  match decimalDigitRanges.find? fun r => r.1 ≤ c.toNat && c.toNat ≤ r.2 with
  | some r => (c.toNat - r.1) % 10
  | none => 0

/-- The number that a run of digits names in its script. -/
def digitsValue (s : List Char) : Nat := s.foldl (fun n c => 10 * n + digitValue c) 0

/-- A line whose status 200 and size 42 are written in Arabic-Indic digits. -/
def arabicLine : List Char :=
  "10.1.1.1 - - [10/Oct/2000:13:55:36 +0000] \"GET /\" \u0662\u0660\u0660 \u0664\u0662 Info".toList

/-- A number of another script has no value for the entry, even if it fits: such a line is an entry
with an unknown status and without a size. -/
theorem Entry.ofCombinedLine?_otherScript :
    ∃ pre p e, Leads arabicLine pre p ∧ ofCombinedLine? arabicLine = some e ∧
      digitsValue p.status = 200 ∧ e.statusCode = -1 ∧ digitsValue p.size = 42 ∧ e.size = none := by
  let parts : CombinedParts :=
    { ip := "10.1.1.1".toList
      user := ['-']
      timestamp := "10/Oct/2000:13:55:36 +0000".toList
      request := "GET /".toList
      status := ['\u0662', '\u0660', '\u0660']
      size := ['\u0664', '\u0662']
      rest := " Info".toList }
  have hfind : find? arabicLine = some parts := by decide +kernel
  obtain ⟨pre, hleads⟩ := find?_eq_some_iff.1 hfind
  have hentry : (ofCombinedLine? arabicLine).isSome := by decide +kernel
  obtain ⟨e, he⟩ := Option.isSome_iff_exists.1 hentry
  have hvalues : ∀ e ∈ ofCombinedLine? arabicLine, e.statusCode = -1 ∧ e.size = none := by
    decide +kernel
  obtain ⟨hstatus, hsize⟩ := hvalues e he
  exact ⟨pre, parts, e, hleads, he, by decide +kernel, hstatus, by decide +kernel, hsize⟩

end LogDigest
