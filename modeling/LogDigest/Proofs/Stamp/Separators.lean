import LogDigest.Proofs.Stamp.Ambiguity
import LogDigest.Proofs.Stamp.Numbers

/-!
# Separators of year-first date-times do not matter

A date-time that begins with a year may have hyphens or slashes in its date, a space or a `T` before
its time, and a point or a comma before its fraction. Whatever the digits between them, all these
texts are read alike: they are refused, or they give the timestamp that their numbers name
(`Timestamp.ofText?_separators`).

**One uniform text.** There are at most two slashes, one `T` and one comma, so making separators
uniform replaces all of them (`yearFirst_text`). The year-first forms read only the uniform text.

**No other form.** The text opens with a year and has two colons and no letter when it is uniform,
so it is of the year-first kind and forms of other kinds refuse it.

**What the numbers name.** A number has one or two digits, and of a fraction nine digits count
(`YearFirstDigits.named?`). The digits of the day are the only ones that the next number could be
taken for: without any, the space before the hour is skipped. So the value is told for texts in
which the day has digits (`YearFirstNumbers`).
-/

namespace LogDigest

open Text

attribute [local instance (high)] instPowNat

-- What is said of all characters of a list is decided on the list, whatever is imported beside this
-- module.
attribute [local instance (high)] List.decidableBAll

/-! ## Digits and separators -/

/-- The digits of a year-first date-time: a year of four digits, and any digits for the rest. -/
structure YearFirstDigits where
  year : Nat
  month : List Char
  day : List Char
  hour : List Char
  minute : List Char
  second : List Char
  fraction : Option (List Char)
  year_lt : year < 10000
  isDigit_month : ∀ c ∈ month, c.isDigit = true
  isDigit_day : ∀ c ∈ day, c.isDigit = true
  isDigit_hour : ∀ c ∈ hour, c.isDigit = true
  isDigit_minute : ∀ c ∈ minute, c.isDigit = true
  isDigit_second : ∀ c ∈ second, c.isDigit = true
  isDigit_fraction : ∀ ds ∈ fraction, ∀ c ∈ ds, c.isDigit = true

/-- Digits of a year-first date-time that tell the numbers apart: the day has some. -/
structure YearFirstNumbers extends YearFirstDigits where
  day_ne_nil : day ≠ []

/-- Which separators stand in place of the uniform ones. -/
structure Separators where
  slashBeforeMonth : Bool := false
  slashBeforeDay : Bool := false
  /-- A `T` and no space. -/
  markBeforeHour : Bool := false
  commaBeforeFraction : Bool := false

/-- Hyphens, a space and a point. -/
def Separators.plain : Separators := {}

namespace YearFirstDigits

/-- The fraction with the mark before it. -/
def fractionText (n : YearFirstDigits) (sep : Separators) : List Char :=
  match n.fraction with
  | none => []
  | some ds => (if sep.commaBeforeFraction then ',' else '.') :: ds

/-- The digits with three marks between them, and what stands behind the second. -/
def withMarks (n : YearFirstDigits) (a b c : Char) (f : List Char) : List Char :=
  (padded 4 n.year).toList ++ a :: (n.month ++ b :: (n.day ++ c ::
    (n.hour ++ ':' :: (n.minute ++ ':' :: (n.second ++ f)))))

def text (n : YearFirstDigits) (sep : Separators) : List Char :=
  n.withMarks (if sep.slashBeforeMonth then '/' else '-') (if sep.slashBeforeDay then '/' else '-')
    (if sep.markBeforeHour then 'T' else ' ') (n.fractionText sep)

/-- The nanoseconds that the digits of a fraction name; those behind the ninth do not count. -/
def nanos (ds : List Char) : Nat :=
  Nat.ofDigitChars 10 (ds.take 9) 0 * 10 ^ (9 - (ds.take 9).length)

/-- The nanoseconds that a fraction names; there is no fraction without digits. -/
def nanos? : Option (List Char) → Option Nat
  | none => some 0
  | some ds => if ds = [] then none else some (nanos ds)

def named? (n : YearFirstDigits) : Option Timestamp := do
  let month ← shortNumeral? n.month
  let day ← shortNumeral? n.day
  let hour ← shortNumeral? n.hour
  let minute ← shortNumeral? n.minute
  let second ← shortNumeral? n.second
  let nano ← nanos? n.fraction
  let date ← Date.ofYmd? n.year month day
  let time ← Time.ofHms? hour minute second nano
  return { date, time }

end YearFirstDigits

/-! ## The uniform text -/

/-- Replacing some occurrences is replacing all of them if there are no more. -/
theorem replaceFirst_eq_map {old new : Char} {s : List Char} {n : Nat} (h : s.count old ≤ n) :
    replaceFirst n old new s = s.map fun c => if c = old then new else c := by
  induction s generalizing n with
  | nil => rfl
  | cons c s ih =>
    cases n with
    | zero =>
      have hnone : old ∉ c :: s := List.count_eq_zero.1 (Nat.le_zero.1 h)
      have hsame : (c :: s).map (fun c => if c = old then new else c) = (c :: s).map id :=
        List.map_congr_left fun d hd => if_neg (ne_of_mem_of_not_mem hd hnone)
      rw [hsame, List.map_id]
      rfl
    | succ n =>
      rw [replaceFirst, List.map_cons]
      split
      · rename_i heq
        rw [heq, List.count_cons_self] at h
        rw [ih (Nat.le_of_succ_le_succ h)]
      · rename_i hne
        rw [List.count_cons_of_ne hne] at h
        rw [ih h]

theorem count_of_isDigit {ds : List Char} (h : ∀ c ∈ ds, c.isDigit = true) {c : Char}
    (hc : c.isDigit = false) : ds.count c = 0 :=
  List.count_eq_zero.2 (not_mem_of_isDigit h hc)

/-- Replacing a mark leaves digits. -/
theorem ite_of_isDigit {old new : Char} (hold : old.isDigit = false) :
    ∀ c : Char, c.isDigit = true → (if c = old then new else c) = c := by
  intro c hc
  refine if_neg ?_
  rintro rfl
  rw [hold] at hc
  cases hc

theorem map_of_isDigit {ds : List Char} (h : ∀ c ∈ ds, c.isDigit = true) {f : Char → Char}
    (hf : ∀ c, c.isDigit = true → f c = c) : ds.map f = ds := by
  have hsame : ds.map f = ds.map id := List.map_congr_left fun c hc => hf c (h c hc)
  rw [hsame, List.map_id]

namespace YearFirstDigits

variable (n : YearFirstDigits) {a b c : Char} {f : List Char}

theorem opensWithYear_withMarks (ha : a = '-' ∨ a = '/') :
    opensWithYear (n.withMarks a b c f) = true := by
  match h : (padded 4 n.year).toList, length_padded (by decide) n.year_lt with
  | [w, x, y, z], _ =>
    have hdigits : ∀ e ∈ [w, x, y, z], e.isDigit = true := h ▸ isDigit_of_mem_padded
    simp only [List.mem_cons, List.not_mem_nil, or_false, forall_eq_or_imp, forall_eq] at hdigits
    rw [withMarks, h]
    simp [opensWithYear, hdigits, ha]

theorem count_withMarks {m : Char} (hm : m.isDigit = false) (hcolon : m ≠ ':') :
    (n.withMarks a b c f).count m = [a, b, c].count m + f.count m := by
  simp only [withMarks, List.count_append, List.count_cons,
    count_of_isDigit isDigit_of_mem_padded hm, count_of_isDigit n.isDigit_month hm,
    count_of_isDigit n.isDigit_day hm, count_of_isDigit n.isDigit_hour hm,
    count_of_isDigit n.isDigit_minute hm, count_of_isDigit n.isDigit_second hm, List.count_nil,
    beq_iff_eq, Ne.symm hcolon]
  simp only [if_false]
  omega

theorem map_withMarks {g : Char → Char} (hg : ∀ c, c.isDigit = true → g c = c)
    (hcolon : g ':' = ':') :
    (n.withMarks a b c f).map g = n.withMarks (g a) (g b) (g c) (f.map g) := by
  simp only [withMarks, List.map_append, List.map_cons, map_of_isDigit isDigit_of_mem_padded hg,
    map_of_isDigit n.isDigit_month hg, map_of_isDigit n.isDigit_day hg,
    map_of_isDigit n.isDigit_hour hg, map_of_isDigit n.isDigit_minute hg,
    map_of_isDigit n.isDigit_second hg, hcolon]

/-- Replacing one mark by another leaves digits and colons. -/
theorem replaceFirst_withMarks {old new : Char} (hold : old.isDigit = false) (hcolon : old ≠ ':')
    (hf : old ∉ f) {k : Nat} (hk : [a, b, c].count old ≤ k) :
    replaceFirst k old new (n.withMarks a b c f) =
      n.withMarks (if a = old then new else a) (if b = old then new else b)
        (if c = old then new else c) f := by
  have hcount : (n.withMarks a b c f).count old ≤ k := by
    rw [n.count_withMarks hold hcolon, List.count_eq_zero.2 hf]
    exact hk
  have hrest : f.map (fun d => if d = old then new else d) = f.map id :=
    List.map_congr_left fun d hd => if_neg (ne_of_mem_of_not_mem hd hf)
  rw [replaceFirst_eq_map hcount,
    n.map_withMarks (g := fun d => if d = old then new else d) (ite_of_isDigit hold)
      (if_neg hcolon.symm), hrest, List.map_id]

theorem isDigit_of_mem_fractionText {sep : Separators} {d : Char} (hd : d ∈ n.fractionText sep) :
    d.isDigit = true ∨ d = '.' ∨ d = ',' := by
  rw [fractionText] at hd
  split at hd
  · cases hd
  · rename_i ds hds
    rcases List.mem_cons.1 hd with rfl | hd
    · cases sep.commaBeforeFraction
      · exact Or.inr (Or.inl rfl)
      · exact Or.inr (Or.inr rfl)
    · exact Or.inl (n.isDigit_fraction ds hds d hd)

theorem map_fractionText (sep : Separators) :
    (n.fractionText sep).map (fun d => if d = ',' then '.' else d) = n.fractionText .plain := by
  rw [fractionText, fractionText]
  split
  · rfl
  · rename_i ds hds
    rw [List.map_cons, map_of_isDigit (n.isDigit_fraction ds hds) (ite_of_isDigit (by decide))]
    cases sep.commaBeforeFraction <;> rfl

/-- Making the separators uniform leaves nothing of how they were chosen. -/
theorem yearFirst_text (sep : Separators) : yearFirst (n.text sep) = n.text .plain := by
  have hopens : opensWithYear (n.text sep) = true :=
    n.opensWithYear_withMarks (by cases sep.slashBeforeMonth <;> decide)
  have hslash : '/' ∉ n.fractionText sep := fun h =>
    absurd (n.isDigit_of_mem_fractionText h) (by decide)
  have hmark : 'T' ∉ n.fractionText sep := fun h =>
    absurd (n.isDigit_of_mem_fractionText h) (by decide)
  have hslashes : replaceFirst 2 '/' '-' (n.text sep) =
      n.withMarks '-' '-' (if sep.markBeforeHour then 'T' else ' ') (n.fractionText sep) := by
    rw [text, n.replaceFirst_withMarks (by decide) (by decide) hslash]
    · cases sep.slashBeforeMonth <;> cases sep.slashBeforeDay <;> cases sep.markBeforeHour <;> rfl
    · cases sep.slashBeforeMonth <;> cases sep.slashBeforeDay <;> cases sep.markBeforeHour <;>
        decide
  have hmarks : replaceFirst 1 'T' ' '
      (n.withMarks '-' '-' (if sep.markBeforeHour then 'T' else ' ') (n.fractionText sep)) =
        n.withMarks '-' '-' ' ' (n.fractionText sep) := by
    rw [n.replaceFirst_withMarks (by decide) (by decide) hmark]
    · cases sep.markBeforeHour <;> rfl
    · cases sep.markBeforeHour <;> decide
  rw [yearFirst, if_pos hopens, hslashes, hmarks,
    n.map_withMarks (g := fun d => if d = ',' then '.' else d) (ite_of_isDigit (by decide)) rfl,
    n.map_fractionText]
  rfl

/-! ## The kind of the text -/

theorem noBlank_of_isDigit {ds : List Char} (h : ∀ c ∈ ds, c.isDigit = true) : NoBlank ds :=
  fun c hc => isBlank_of_isDigit (h c hc)

theorem noBlank_fractionText (sep : Separators) : NoBlank (n.fractionText sep) := by
  intro d hd
  rcases n.isDigit_of_mem_fractionText hd with hdigit | rfl | rfl
  · exact isBlank_of_isDigit hdigit
  · decide
  · decide

/-- The year, the rest of the date with the mark behind it, and the time of day. -/
theorem withMarks_eq_append :
    n.withMarks a b c f = (padded 4 n.year).toList ++ ((a :: (n.month ++ b :: (n.day ++ [c]))) ++
      (n.hour ++ ':' :: (n.minute ++ ':' :: (n.second ++ f)))) := by
  simp only [withMarks, List.append_assoc, List.cons_append, List.nil_append]

theorem trim_text (sep : Separators) : trim (n.text sep) = n.text sep := by
  have hclock :
      IsWord (n.hour ++ ':' :: (n.minute ++ ':' :: (n.second ++ n.fractionText sep))) := by
    have hcolon : isBlank ':' = false := by decide
    refine ⟨List.append_ne_nil_of_right_ne_nil _ (List.cons_ne_nil _ _), ?_⟩
    simp only [noBlank_cons, noBlank_append, hcolon, noBlank_of_isDigit n.isDigit_hour,
      noBlank_of_isDigit n.isDigit_minute, noBlank_of_isDigit n.isDigit_second,
      n.noBlank_fractionText, and_self]
  rw [text, n.withMarks_eq_append]
  exact trim_isWord_append (isWord_padded 4 n.year) _ hclock

theorem ofText_text (sep : Separators) : StampKind.ofText (n.text sep) = .yearFirst := by
  have hfraction : Outline.ofText (n.fractionText .plain) =
      ⟨n.fraction.map fun _ => '.', 0, false⟩ := by
    rw [fractionText]
    split
    · rename_i hnone
      rw [hnone]
      rfl
    · rename_i ds hds
      rw [hds, Outline.ofText_cons, ← List.append_nil ds,
        Outline.ofText_append (n.isDigit_fraction ds hds)]
      rfl
  rw [StampKind.ofText, yearFirst_text, text, withMarks]
  simp only [Outline.ofText_append isDigit_of_mem_padded, Outline.ofText_append n.isDigit_month,
    Outline.ofText_append n.isDigit_day, Outline.ofText_append n.isDigit_hour,
    Outline.ofText_append n.isDigit_minute, Outline.ofText_append n.isDigit_second,
    Outline.ofText_cons, hfraction]
  rfl

/-- A form of another kind refuses the text. -/
theorem read?_text_of_not_uniform (sep : Separators) {form : StampForm}
    (hform : form ∈ StampForm.all) (huniform : form.uniform = false) :
    form.read? (n.text sep) = none := by
  refine StampForm.read?_eq_none hform fun hmem => ?_
  rw [n.ofText_text] at hmem
  simp only [StampKind.forms, List.mem_cons, List.not_mem_nil, or_false] at hmem
  rcases hmem with rfl | rfl <;> cases huniform

theorem ofText?_text (sep : Separators) :
    Timestamp.ofText? (n.text sep) = (Pattern.yearFirstFraction.read (n.text .plain)).toOption := by
  have hread := (StampForm.findSome?_pair (s := n.text sep) fun _ =>
    StampForm.read?_yearFirstFraction).1
  rw [Timestamp.ofText?_eq_forms, n.trim_text, n.ofText_text]
  rw [StampForm.read?, if_pos rfl, n.yearFirst_text] at hread
  exact hread

/-! ## The numbers of the text -/

/-- The digits of a fraction, of which nine at most count. -/
theorem readFraction_digits {ds : List Char} (hds : ∀ c ∈ ds, c.isDigit = true) (hne : ds ≠ []) :
    readFraction ds = .ok (nanos ds, []) := by
  have htake : (ds.take 9).takeWhile Char.isDigit = ds.take 9 :=
    List.takeWhile_eq_self_iff.2 fun c hc => hds c (List.mem_of_mem_take hc)
  have hempty : (ds.take 9).isEmpty = false := by
    rw [← Bool.not_eq_true, List.isEmpty_iff, List.take_eq_nil_iff]
    exact fun h => h.elim nofun hne
  have hread : readDigits 9 ds =
      .ok (Nat.ofDigitChars 10 (ds.take 9) 0, ds.drop (ds.take 9).length) := by
    simp only [readDigits, htake, hempty, Bool.false_eq_true, if_false]
  have hlength : ds.length - (ds.drop (ds.take 9).length).length = (ds.take 9).length := by
    rw [List.length_drop, List.length_take]
    omega
  have hrest : (ds.drop (ds.take 9).length).dropWhile Char.isDigit = [] :=
    List.dropWhile_eq_nil_iff.2 fun c hc => hds c (List.mem_of_mem_drop hc)
  simp only [readFraction, hread, Except.map, hlength, hrest]
  rfl

theorem fractionText_of_some {ds : List Char} (h : n.fraction = some ds) :
    n.fractionText .plain = '.' :: ds := by
  rw [fractionText, h]
  rfl

theorem fractionText_of_none (h : n.fraction = none) : n.fractionText .plain = [] := by
  rw [fractionText, h]

theorem toOption_readFrom_fraction {r : Reading} (hr : r.nano = 0) :
    (Pattern.readFrom [.fraction] r (n.fractionText .plain)).toOption =
      (nanos? n.fraction).map fun nano => { r with nano } := by
  cases hfraction : n.fraction with
  | none =>
    rw [n.fractionText_of_none hfraction, nanos?, Option.map_some, ← hr]
    rfl
  | some ds =>
    rw [n.fractionText_of_some hfraction, nanos?]
    split
    · rename_i hnil
      rw [hnil]
      rfl
    · rename_i hne
      have hread : PatternItem.read .fraction r ('.' :: ds) =
          .ok ({ r with nano := nanos ds }, []) := by
        rw [PatternItem.read, readFraction_digits (n.isDigit_fraction ds hfraction) hne]
        rfl
      exact congrArg Except.toOption (Pattern.readFrom_cons hread)

theorem noDigitNext_fractionText : NoDigitNext (n.fractionText .plain) := by
  cases hfraction : n.fraction with
  | none =>
    rw [n.fractionText_of_none hfraction]
    exact noDigitNext_nil
  | some ds =>
    rw [n.fractionText_of_some hfraction]
    exact noDigitNext_cons (by decide) ds

theorem toOption_readFrom_second {r : Reading} :
    (Pattern.readFrom [.number .second, .fraction] r (n.second ++ n.fractionText .plain)).toOption =
      (shortNumeral? n.second).bind fun second =>
        (r.set .second second).toOption.bind fun r' =>
          (Pattern.readFrom [.fraction] r' (n.fractionText .plain)).toOption := by
  refine Pattern.toOption_readFrom_number (by decide) n.isDigit_second n.noDigitNext_fractionText
    (fun _ => ?_) ?_
  · cases hfraction : n.fraction with
    | none =>
      rw [n.fractionText_of_none hfraction]
      rfl
    | some ds =>
      rw [n.fractionText_of_some hfraction]
      exact Pattern.readFrom_number_cons (by decide) (by decide) (by decide)
  · -- Behind the second stands a point or nothing, and no digit.
    rintro d fs hd - ⟨part, rest, hs, hpart, rfl⟩
    rw [List.append_nil] at hs
    subst hs
    rcases hpart with hpart | ⟨es, hpart, -⟩
    · cases hpart
    · cases hpart
      cases hd

/-- Numbers that are set if their units allow them name what they name. -/
theorem bind_timestamp_of_allows {year month day hour minute second nano : Nat} {r : Reading}
    (hr : r = { year, month, day, hour, minute, second, nano }) :
    ((if TimeUnit.month.Allows month then
        if TimeUnit.day.Allows day then
          if TimeUnit.hour.Allows hour then
            if TimeUnit.minute.Allows minute then
              if TimeUnit.second.Allows second then some r else none
            else none
          else none
        else none
      else none).bind fun r => r.timestamp.toOption) =
      (Date.ofYmd? year month day).bind fun date =>
        (Time.ofHms? hour minute second nano).map fun time => { date, time } := by
  simp only [← ite_and]
  split
  · rw [hr]
    exact Reading.toOption_timestamp rfl rfl
  · rename_i hall
    by_cases hdate : TimeUnit.month.Allows month ∧ TimeUnit.day.Allows day
    · rw [Time.ofHms?_eq_none fun hclock => hall ⟨hdate.1, hdate.2, hclock⟩]
      cases Date.ofYmd? year month day <;> rfl
    · rw [Date.ofYmd?_eq_none hdate]
      rfl

end YearFirstDigits

namespace YearFirstNumbers

variable (n : YearFirstNumbers)

/-- The numbers of the text are set one after the other. -/
theorem toOption_readFrom_plain :
    (Pattern.yearFirstFraction.readFrom {} (n.text .plain)).toOption = (do
      let month ← shortNumeral? n.month
      let r ← ((({} : Reading).put .year n.year).set .month month).toOption
      let day ← shortNumeral? n.day
      let r ← (r.set .day day).toOption
      let hour ← shortNumeral? n.hour
      let r ← (r.set .hour hour).toOption
      let minute ← shortNumeral? n.minute
      let r ← (r.set .minute minute).toOption
      let second ← shortNumeral? n.second
      let r ← (r.set .second second).toOption
      (Pattern.readFrom [.fraction] r (n.fractionText .plain)).toOption) := by
  have htext : n.text .plain =
      (padded 4 n.year).toList ++ '-' :: (n.month ++ '-' :: (n.day ++ ' ' ::
        (n.hour ++ ':' :: (n.minute ++ ':' :: (n.second ++ n.fractionText .plain))))) := rfl
  rw [htext, Pattern.yearFirstFraction]
  simp only [Pattern.dateBy, Pattern.clock, List.cons_append, List.nil_append]
  rw [Pattern.readFrom_year n.year_lt, Pattern.readFrom_mark,
    Pattern.readFrom_number_mark (by decide) n.isDigit_month (by decide) (by decide)]
  refine Option.bind_congr fun month _ => Option.bind_congr fun r _ => ?_
  rw [Pattern.readFrom_number_blanks_number (by decide) (by decide) n.isDigit_day n.day_ne_nil
    (by decide) (by decide) (by decide)]
  refine Option.bind_congr fun day _ => Option.bind_congr fun r _ => ?_
  rw [Pattern.readFrom_number_mark (by decide) n.isDigit_hour (by decide) (by decide)]
  refine Option.bind_congr fun hour _ => Option.bind_congr fun r _ => ?_
  rw [Pattern.readFrom_number_mark (by decide) n.isDigit_minute (by decide) (by decide)]
  refine Option.bind_congr fun minute _ => Option.bind_congr fun r _ => ?_
  exact n.toOption_readFrom_second

/-- **What the numbers name.** The uniform text is read as the timestamp that its numbers name. -/
theorem toOption_read_plain :
    (Pattern.yearFirstFraction.read (n.text .plain)).toOption = n.named? := by
  rw [Pattern.toOption_read, n.toOption_readFrom_plain, YearFirstDigits.named?]
  simp only [bind, pure, Reading.bind_set]
  -- Without one of the numbers there is nothing on either side.
  cases shortNumeral? n.month with
  | none => rfl
  | some month =>
    cases shortNumeral? n.day with
    | none => simp only [Option.bind_some, Option.bind_none, ite_self]
    | some day =>
      cases shortNumeral? n.hour with
      | none => simp only [Option.bind_some, Option.bind_none, ite_self]
      | some hour =>
        cases shortNumeral? n.minute with
        | none => simp only [Option.bind_some, Option.bind_none, ite_self]
        | some minute =>
          cases shortNumeral? n.second with
          | none => simp only [Option.bind_some, Option.bind_none, ite_self]
          | some second =>
            simp only [Option.bind_some]
            rw [n.toOption_readFrom_fraction rfl]
            cases YearFirstDigits.nanos? n.fraction with
            | none => simp only [Option.map_none, Option.bind_none, ite_self]
            | some nano =>
              refine (YearFirstDigits.bind_timestamp_of_allows rfl).trans ?_
              simp only [Option.bind_some, Option.map_eq_bind]
              rfl

end YearFirstNumbers

/-! ## The result -/

namespace Timestamp

/-- **Separators of year-first date-times do not matter.** Whatever the digits and the separators,
the text is read as with hyphens, a space and a point, and no form reads it but those that make
separators uniform. If the day has digits, that gives the timestamp that the numbers name, if there
is one. -/
theorem ofText?_separators (sep : Separators) :
    (∀ n : YearFirstDigits, ofText? (n.text sep) = ofText? (n.text .plain) ∧
      ∀ form ∈ StampForm.all, form.uniform = false → form.read? (n.text sep) = none) ∧
    ∀ n : YearFirstNumbers, ofText? (n.text sep) = n.named? := by
  constructor
  · intro n
    refine ⟨?_, fun form => n.read?_text_of_not_uniform sep⟩
    rw [n.ofText?_text sep, n.ofText?_text .plain]
  · intro n
    rw [n.ofText?_text sep, n.toOption_read_plain]

/-- A leap second with ten digits behind it, and numbers of one digit and two. -/
def lastNumbers : YearFirstNumbers where
  year := 2016
  month := ['1', '2']
  day := ['3', '1']
  hour := ['2', '3']
  minute := ['9']
  second := ['6', '0']
  fraction := some ['1', '2', '3', '4', '5', '6', '7', '8', '9', '9']
  year_lt := by decide
  isDigit_month := by decide
  isDigit_day := by decide
  isDigit_hour := by decide
  isDigit_minute := by decide
  isDigit_second := by decide
  isDigit_fraction := by decide
  day_ne_nil := by decide

/-- A slash, a hyphen, a `T` and a comma; the tenth digit does not count. -/
theorem ofText?_separators_lastNumbers :
    lastNumbers.text
        { slashBeforeMonth := true, markBeforeHour := true, commaBeforeFraction := true } =
          "2016/12-31T23:9:60,1234567899".toList ∧
      lastNumbers.text .plain = "2016-12-31 23:9:60.1234567899".toList ∧
      ofText? "2016/12-31T23:9:60,1234567899".toList =
        ofText? "2016-12-31 23:9:60.1234567899".toList ∧
      (ofText? "2016/12-31T23:9:60,1234567899".toList).map exact =
        some "2016-12-31 23:09:60.123456789" ∧
      ({ pattern := .yearFirstDate } : StampForm) ∈ StampForm.all ∧
      StampForm.read? { pattern := .yearFirstDate } "2016/12-31T23:9:60,1234567899".toList =
        none := by
  have htext : lastNumbers.text
      { slashBeforeMonth := true, markBeforeHour := true, commaBeforeFraction := true } =
        "2016/12-31T23:9:60,1234567899".toList := by decide
  have hplain : lastNumbers.text .plain = "2016-12-31 23:9:60.1234567899".toList := by decide
  have hmem : ({ pattern := .yearFirstDate } : StampForm) ∈ StampForm.all := by decide
  obtain ⟨hdigits, hnumbers⟩ := ofText?_separators
    { slashBeforeMonth := true, markBeforeHour := true, commaBeforeFraction := true }
  obtain ⟨hsame, hother⟩ := hdigits lastNumbers.toYearFirstDigits
  have hnamed := hnumbers lastNumbers
  rw [htext, hplain] at hsame
  rw [htext] at hnamed hother
  refine ⟨htext, hplain, hsame, ?_, hmem, hother _ hmem rfl⟩
  rw [hnamed]
  decide

end Timestamp

end LogDigest
