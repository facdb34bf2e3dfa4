import LogDigest.Text.Blank
import Mathlib.Data.List.Induction
import Mathlib.Data.List.TakeDrop
import Mathlib.Data.List.TakeWhile

/-!
# Words of a text

The parts of a text between separators are those of the library's `List.splitOnP`. So what is known
of words follows from one equation: a blank splits the words of a text into those before it and
those behind it (`words_append_blank`).

**Runs.** A scan that goes on for as long as characters are of a class takes a run of that class up
to where the text does not go on with one (`EndsRun`).

**Words.** What stands between blanks are words (`IsWord`), and words joined by spaces come apart
into these words again (`words_unwords`).

**Ends of a text.** Blanks at the end of a text belong to no word, so trimming changes no word
(`words_trimRight`), and one blank more at the end of a text is trimmed away with the others. Words
joined by spaces have nothing to trim (`trim_unwords`).
-/

namespace LogDigest.Text

/-! ## Runs of a class -/

section Runs

variable {p : Char → Bool} {a s : List Char}

/-- The text does not go on with a character of the class. -/
def EndsRun (p : Char → Bool) (s : List Char) : Prop := ∀ c ∈ s.head?, p c = false

theorem endsRun_nil : EndsRun p [] := nofun

theorem endsRun_cons {c : Char} (h : p c = false) (s : List Char) : EndsRun p (c :: s) := by
  intro d hd
  cases hd
  exact h

theorem endsRun_append (hne : a ≠ []) (ha : ∀ c ∈ a, p c = false) (s : List Char) :
    EndsRun p (a ++ s) := by
  cases a with
  | nil => exact absurd rfl hne
  | cons c a => exact endsRun_cons (ha c List.mem_cons_self) (a ++ s)

theorem endsRun_dropWhile (p : Char → Bool) (s : List Char) : EndsRun p (s.dropWhile p) := by
  intro c hc
  have hhead := List.head?_dropWhile_not p s
  rw [Option.mem_def.1 hc] at hhead
  exact hhead

theorem takeWhile_eq_nil_of_endsRun (h : EndsRun p s) : s.takeWhile p = [] := by
  cases s with
  | nil => rfl
  | cons c s => exact List.takeWhile_cons_of_neg (by simp [h c rfl])

theorem takeWhile_append_of_endsRun (ha : ∀ c ∈ a, p c = true) (hs : EndsRun p s) :
    (a ++ s).takeWhile p = a := by
  rw [List.takeWhile_append_of_pos ha, takeWhile_eq_nil_of_endsRun hs, List.append_nil]

theorem dropWhile_append_of_endsRun (ha : ∀ c ∈ a, p c = true) (hs : EndsRun p s) :
    (a ++ s).dropWhile p = s := by
  rw [List.dropWhile_append_of_pos ha]
  cases s with
  | nil => rfl
  | cons c s => exact List.dropWhile_cons_of_neg (by simp [hs c rfl])

end Runs

/-! ## Parts between separators -/

theorem pieces_eq_splitOnP (isSep : Char → Bool) (s : List Char) :
    pieces isSep s = s.splitOnP isSep := by
  induction s with
  | nil => rfl
  | cons c s ih =>
    obtain ⟨part, parts, hparts⟩ := List.exists_cons_of_ne_nil (List.splitOnP_ne_nil isSep s)
    rw [pieces, List.splitOnP_cons_eq_if_modifyHead, ih, hparts, List.modifyHead_cons]

/-- The first part is at the front of the whole, and the others are inside it. -/
theorem isPrefix_of_splitOnP_eq_cons {α : Type} {p : α → Bool} {xs part : List α}
    {parts : List (List α)} (h : xs.splitOnP p = part :: parts) :
    part <+: xs ∧ ∀ other ∈ parts, other <:+: xs := by
  induction xs generalizing part parts with
  | nil =>
    cases h
    exact ⟨List.prefix_rfl, nofun⟩
  | cons x xs ih =>
    obtain ⟨first, others, hparts⟩ := List.exists_cons_of_ne_nil (List.splitOnP_ne_nil p xs)
    obtain ⟨hfirst, hothers⟩ := ih hparts
    rw [List.splitOnP_cons_eq_if_modifyHead, hparts] at h
    split at h
    · cases h
      exact ⟨List.nil_prefix, List.forall_mem_cons.2
        ⟨List.infix_cons hfirst.isInfix, fun other h => List.infix_cons (hothers other h)⟩⟩
    · cases h
      exact ⟨List.cons_prefix_cons.2 ⟨rfl, hfirst⟩,
        fun other h => List.infix_cons (hothers other h)⟩

/-- Every part is inside the whole. -/
theorem isInfix_of_mem_splitOnP {α : Type} {p : α → Bool} {xs part : List α}
    (h : part ∈ xs.splitOnP p) : part <:+: xs := by
  obtain ⟨first, others, hparts⟩ := List.exists_cons_of_ne_nil (List.splitOnP_ne_nil p xs)
  obtain ⟨hfirst, hothers⟩ := isPrefix_of_splitOnP_eq_cons hparts
  rw [hparts] at h
  rcases List.mem_cons.1 h with rfl | h
  · exact hfirst.isInfix
  · exact hothers part h

theorem isInfix_of_mem_pieces {isSep : Char → Bool} {s p : List Char} (h : p ∈ pieces isSep s) :
    p <:+: s :=
  isInfix_of_mem_splitOnP (by rwa [pieces_eq_splitOnP] at h)

/-- What stands between separators is a part of the text. -/
theorem isInfix_of_mem_nonemptyPieces {isSep : Char → Bool} {s p : List Char}
    (h : p ∈ nonemptyPieces isSep s) : p <:+: s :=
  isInfix_of_mem_pieces (List.mem_filter.1 h).1

theorem flatten_pieces_eq_filter (isSep : Char → Bool) (s : List Char) :
    (pieces isSep s).flatten = s.filter fun c => !isSep c := by
  induction s with
  | nil => rfl
  | cons c s ih =>
    rw [pieces]
    cases hc : isSep c with
    | true => simpa [hc] using ih
    | false =>
      rw [if_neg (by simp), List.filter_cons_of_pos (by simp [hc]), ← ih]
      cases pieces isSep s <;> rfl

/-- What stands in a part is of the whole, and no separator. -/
theorem of_mem_splitOnP {α : Type} {p : α → Bool} {xs part : List α}
    (h : part ∈ xs.splitOnP p) : ∀ x ∈ part, x ∈ xs ∧ p x = false := by
  induction xs generalizing part with
  | nil =>
    rw [List.splitOnP_nil, List.mem_singleton] at h
    subst h
    nofun
  | cons x xs ih =>
    have hmore : ∀ {part}, part ∈ xs.splitOnP p → ∀ y ∈ part, y ∈ x :: xs ∧ p y = false :=
      fun h y hy => ⟨List.mem_cons_of_mem x (ih h y hy).1, (ih h y hy).2⟩
    rw [List.splitOnP_cons_eq_if_modifyHead] at h
    split at h
    · rcases List.mem_cons.1 h with rfl | h
      · nofun
      · exact hmore h
    · rename_i hx
      obtain ⟨first, parts, hparts⟩ := List.exists_cons_of_ne_nil (List.splitOnP_ne_nil p xs)
      rw [hparts, List.modifyHead_cons] at h
      rw [hparts] at hmore
      rcases List.mem_cons.1 h with rfl | h
      · intro y hy
        rcases List.mem_cons.1 hy with rfl | hy
        · exact ⟨List.mem_cons_self, Bool.eq_false_iff.2 hx⟩
        · exact hmore List.mem_cons_self y hy
      · exact hmore (List.mem_cons_of_mem _ h)

theorem isSep_eq_false_of_mem_splitOnP {α : Type} {p : α → Bool} {xs part : List α}
    (h : part ∈ xs.splitOnP p) : ∀ x ∈ part, p x = false :=
  fun x hx => (of_mem_splitOnP h x hx).2

/-- A text has two parts if one separator stands in it, and then between them. -/
theorem pieces_eq_pair_iff {c : Char} {s a b : List Char} :
    pieces (· == c) s = [a, b] ↔ s = a ++ c :: b ∧ c ∉ a ∧ c ∉ b := by
  rw [pieces_eq_splitOnP]
  constructor
  · intro h
    have hnotMem : ∀ part ∈ [a, b], c ∉ part := by
      rw [← h]
      intro part hpart hc
      have hsep := isSep_eq_false_of_mem_splitOnP hpart c hc
      rw [beq_self_eq_true] at hsep
      cases hsep
    have hwhole : [c].intercalate (s.splitOn c) = s := List.intercalate_splitOn c
    rw [List.splitOn_eq_splitOnP, h, List.intercalate_cons_cons, List.intercalate_singleton,
      List.append_assoc, List.singleton_append] at hwhole
    exact ⟨hwhole.symm, hnotMem a (by simp), hnotMem b (by simp)⟩
  · rintro ⟨rfl, ha, hb⟩
    have hnoSep : ∀ {s : List Char}, c ∉ s → ∀ d ∈ s, (d == c) = false := by
      rintro s hs d hd
      rw [beq_eq_false_iff_ne]
      rintro rfl
      exact hs hd
    rw [List.splitOnP_append_cons (p := (· == c)) _ _ (beq_self_eq_true c),
      List.splitOnP_eq_singleton (hnoSep ha), List.splitOnP_eq_singleton (hnoSep hb),
      List.singleton_append]

/-- A separator splits the parts that are not empty into those before it and those behind it. -/
theorem nonemptyPieces_append_sep {isSep : Char → Bool} {c : Char} (hc : isSep c = true)
    (s t : List Char) :
    nonemptyPieces isSep (s ++ c :: t) = nonemptyPieces isSep s ++ nonemptyPieces isSep t := by
  simp only [nonemptyPieces, pieces_eq_splitOnP, List.splitOnP_append_cons s t hc,
    List.filter_append]

theorem nonemptyPieces_append_lastSep {isSep : Char → Bool} {c : Char} (hc : isSep c = true)
    (s : List Char) : nonemptyPieces isSep (s ++ [c]) = nonemptyPieces isSep s := by
  rw [nonemptyPieces_append_sep hc]
  exact List.append_nil _

/-- A text of separators only has no parts. -/
theorem nonemptyPieces_eq_nil {isSep : Char → Bool} {s : List Char}
    (h : ∀ c ∈ s, isSep c = true) : nonemptyPieces isSep s = [] := by
  have hflat : (pieces isSep s).flatten = [] := by
    rw [flatten_pieces_eq_filter, List.filter_eq_nil_iff]
    simpa using h
  rw [nonemptyPieces, List.filter_eq_nil_iff]
  intro p hp
  rw [List.flatten_eq_nil_iff.1 hflat p hp]
  decide

/-! ## Words -/

/-- No blank stands in the text. -/
def NoBlank (s : List Char) : Prop := ∀ c ∈ s, isBlank c = false

/-- A text without blanks that is not empty. -/
def IsWord (s : List Char) : Prop := s ≠ [] ∧ NoBlank s

theorem IsWord.append_noBlank {w s : List Char} (hw : IsWord w) (hs : NoBlank s) :
    IsWord (w ++ s) :=
  ⟨List.append_ne_nil_of_left_ne_nil hw.1 s, List.forall_mem_append.2 ⟨hw.2, hs⟩⟩

instance (s : List Char) : Decidable (NoBlank s) :=
  List.decidableBAll (fun c => isBlank c = false) s

instance (s : List Char) : Decidable (IsWord s) :=
  inferInstanceAs (Decidable (s ≠ [] ∧ NoBlank s))

@[simp] theorem noBlank_nil : NoBlank [] := nofun

@[simp] theorem noBlank_cons {c : Char} {s : List Char} :
    NoBlank (c :: s) ↔ isBlank c = false ∧ NoBlank s := List.forall_mem_cons

@[simp] theorem noBlank_append {s t : List Char} : NoBlank (s ++ t) ↔ NoBlank s ∧ NoBlank t :=
  List.forall_mem_append

theorem isWord_of_mem_words {s w : List Char} (h : w ∈ words s) : IsWord w := by
  rw [words, nonemptyPieces, pieces_eq_splitOnP, List.mem_filter] at h
  obtain ⟨hpart, hne⟩ := h
  refine ⟨?_, isSep_eq_false_of_mem_splitOnP hpart⟩
  rintro rfl
  exact absurd hne (by decide)

theorem words_append_blank {c : Char} (hc : isBlank c = true) (s t : List Char) :
    words (s ++ c :: t) = words s ++ words t :=
  nonemptyPieces_append_sep hc s t

theorem words_append_lastBlank {c : Char} (hc : isBlank c = true) (s : List Char) :
    words (s ++ [c]) = words s :=
  nonemptyPieces_append_lastSep hc s

theorem words_of_isWord {w : List Char} (h : IsWord w) : words w = [w] := by
  obtain ⟨hne, hblank⟩ := h
  rw [words, nonemptyPieces, pieces_eq_splitOnP, List.splitOnP_eq_singleton hblank,
    List.filter_cons_of_pos (by simpa using hne), List.filter_nil]

/-- A word and a blank before a text are its first word. -/
theorem words_isWord_append {w : List Char} (h : IsWord w) (s : List Char) :
    words (w ++ ' ' :: s) = w :: words s := by
  rw [words_append_blank (by decide), words_of_isWord h, List.singleton_append]

theorem unwords_cons_cons (w v : List Char) (ws : List (List Char)) :
    unwords (w :: v :: ws) = w ++ ' ' :: unwords (v :: ws) := by
  rw [unwords, List.intercalate_cons_cons, List.append_assoc, List.singleton_append, unwords]

theorem words_unwords {ws : List (List Char)} (h : ∀ w ∈ ws, IsWord w) :
    words (unwords ws) = ws := by
  induction ws with
  | nil => rfl
  | cons w ws ih =>
    obtain ⟨hw, hws⟩ := List.forall_mem_cons.1 h
    cases ws with
    | nil => rw [unwords, List.intercalate_singleton, words_of_isWord hw]
    | cons v ws => rw [unwords_cons_cons, words_isWord_append hw, ih hws]

def withoutBlanks (s : List Char) : List Char := s.filter fun c => !isBlank c

theorem flatten_words (s : List Char) : (words s).flatten = withoutBlanks s := by
  rw [words, nonemptyPieces, List.flatten_filter_not_isEmpty, flatten_pieces_eq_filter,
    withoutBlanks]

theorem withoutBlanks_unwords {ws : List (List Char)} (h : ∀ w ∈ ws, IsWord w) :
    withoutBlanks (unwords ws) = ws.flatten := by
  rw [← flatten_words, words_unwords h]

/-! ## Ends of a text -/

theorem trimRight_append_blank {c : Char} (hc : isBlank c = true) (s : List Char) :
    trimRight (s ++ [c]) = trimRight s := by
  rw [trimRight, List.reverse_append, List.reverse_singleton, List.singleton_append,
    List.dropWhile_cons_of_pos hc, trimRight]

theorem trimRight_append_of_noBlank {c : Char} (hc : isBlank c = false) (s : List Char) :
    trimRight (s ++ [c]) = s ++ [c] := by
  rw [trimRight, List.reverse_append, List.reverse_singleton, List.singleton_append,
    List.dropWhile_cons_of_neg (by simp [hc]), List.reverse_cons, List.reverse_reverse]

theorem trimRight_append_isWord {w : List Char} (h : IsWord w) (s : List Char) :
    trimRight (s ++ w) = s ++ w := by
  obtain ⟨hne, hblank⟩ := h
  obtain ⟨init, c, rfl⟩ := List.eq_nil_or_concat w |>.resolve_left hne
  rw [List.concat_eq_append, ← List.append_assoc, trimRight_append_of_noBlank]
  exact hblank c (by simp)

theorem trimLeft_of_endsRun {s : List Char} (h : EndsRun isBlank s) : trimLeft s = s :=
  dropWhile_append_of_endsRun (a := []) nofun h

/-- A text of which nothing is left when it is trimmed holds blanks only. -/
theorem isBlank_of_trim_eq_nil {s : List Char} (h : trim s = []) : ∀ c ∈ s, isBlank c = true := by
  rw [trim, trimRight, List.reverse_eq_nil_iff, List.dropWhile_eq_nil_iff] at h
  have hleft : trimLeft s = [] := by
    cases hs : trimLeft s with
    | nil => rfl
    | cons c t =>
      have hfirst : isBlank c = false :=
        endsRun_dropWhile isBlank s c (by rw [← trimLeft, hs, List.head?_cons]; rfl)
      have hblank : isBlank c = true := h c (by rw [hs]; simp)
      exact absurd hblank (by simp [hfirst])
  exact List.dropWhile_eq_nil_iff.1 hleft

theorem isPrefix_trimRight (s : List Char) : trimRight s <+: s := by
  rw [← List.reverse_suffix, trimRight, List.reverse_reverse]
  exact List.dropWhile_suffix _

theorem isInfix_trim (s : List Char) : trim s <:+: s :=
  (isPrefix_trimRight (trimLeft s)).isInfix.trans (List.dropWhile_suffix isBlank).isInfix

theorem mem_of_mem_trim {c : Char} {s : List Char} (h : c ∈ trim s) : c ∈ s :=
  (List.dropWhile_suffix _).mem ((isPrefix_trimRight _).mem h)

theorem trimLeft_trimRight {s : List Char} (h : EndsRun isBlank s) :
    trimLeft (trimRight s) = trimRight s := by
  refine trimLeft_of_endsRun fun c hc => ?_
  obtain ⟨rest, hrest⟩ := isPrefix_trimRight s
  refine h c ?_
  rw [← hrest, List.head?_append, Option.mem_def.1 hc]
  rfl

/-- A text without outer blanks has none to lose. -/
theorem trim_trim (s : List Char) : trim (trim s) = trim s := by
  have hends : EndsRun isBlank (trimLeft s) := endsRun_dropWhile isBlank s
  have hright : ∀ t, trimRight (trimRight t) = trimRight t := fun t => by
    have hagain := trimLeft_of_endsRun (endsRun_dropWhile isBlank t.reverse)
    rw [trimLeft] at hagain
    rw [trimRight, trimRight, List.reverse_reverse, hagain]
  rw [trim, trim, trimLeft_trimRight hends, hright]

theorem trim_isWord {w : List Char} (h : IsWord w) : trim w = w := by
  have hleft : trimLeft w = w := by
    have hends := trimLeft_of_endsRun (endsRun_append h.1 h.2 [])
    rwa [List.append_nil] at hends
  rw [trim, hleft]
  exact trimRight_append_isWord h []

/-- A text that begins with a word and ends with one has no outer blanks. -/
theorem trim_isWord_append {v w : List Char} (hv : IsWord v) (between : List Char) (hw : IsWord w) :
    trim (v ++ (between ++ w)) = v ++ (between ++ w) := by
  rw [trim, trimLeft_of_endsRun (endsRun_append hv.1 hv.2 _), ← List.append_assoc]
  exact trimRight_append_isWord hw _

theorem unwords_cons_append (v w : List Char) (ws : List (List Char)) :
    v ++ unwords (w :: ws) = unwords ((v ++ w) :: ws) := by
  cases ws with
  | nil => simp only [unwords, List.intercalate_singleton]
  | cons w' ws => rw [unwords_cons_cons, unwords_cons_cons, List.append_assoc]

theorem exists_last_word {w : List Char} {ws : List (List Char)} (h : ∀ v ∈ w :: ws, IsWord v) :
    ∃ init last, unwords (w :: ws) = init ++ last ∧ IsWord last := by
  induction ws generalizing w with
  | nil => exact ⟨[], w, List.intercalate_singleton, h w List.mem_cons_self⟩
  | cons v ws ih =>
    obtain ⟨init, last, hlast, hword⟩ := ih (List.forall_mem_cons.1 h).2
    refine ⟨w ++ ' ' :: init, last, ?_, hword⟩
    rw [unwords_cons_cons, hlast, List.append_assoc, List.cons_append]

/-- Words joined by single spaces have no outer blanks. -/
theorem trim_unwords {ws : List (List Char)} (h : ∀ w ∈ ws, IsWord w) :
    trim (unwords ws) = unwords ws := by
  cases ws with
  | nil => rfl
  | cons w ws =>
    obtain ⟨init, last, hlast, hword⟩ := exists_last_word h
    have hfirst : unwords (w :: ws) = w ++ unwords ([] :: ws) := by
      rw [unwords_cons_append, List.append_nil]
    have hleft : trimLeft (unwords (w :: ws)) = unwords (w :: ws) := by
      rw [hfirst]
      have hw := h w List.mem_cons_self
      exact trimLeft_of_endsRun (endsRun_append hw.1 hw.2 _)
    rw [trim, hleft, hlast]
    exact trimRight_append_isWord hword init

theorem words_trimRight (s : List Char) : words (trimRight s) = words s := by
  induction s using List.reverseRecOn with
  | nil => rfl
  | append_singleton s c ih =>
    cases hc : isBlank c with
    | true => rw [trimRight_append_blank hc, ih, words_append_lastBlank hc]
    | false => rw [trimRight_append_of_noBlank hc]

/-- One blank more at the end of a text is trimmed away. -/
theorem trim_append_blank {c : Char} (hc : isBlank c = true) (s : List Char) :
    trim (s ++ [c]) = trim s := by
  rw [trim, trimLeft, List.dropWhile_append]
  split
  · rename_i hempty
    rw [List.isEmpty_iff] at hempty
    rw [List.dropWhile_cons_of_pos hc, trim, trimLeft, hempty]
    rfl
  · exact trimRight_append_blank hc _

end LogDigest.Text
