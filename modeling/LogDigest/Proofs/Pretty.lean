import LogDigest.Json.Reader
import LogDigest.Proofs.Json

/-!
# Values come back from their form with one item a line

A value that is written with one item a line is read as that value, however deep it is nested, if
its numbers are integers that fit 64 bits (`Whole.ofText_pretty`).

**Values** (`Reads`). A value is read at a level of nesting, with any blanks before it and anything
behind it that does not go on with a number. There is one rule for each kind of value; for lists and
objects it asks the same of what they hold, one level deeper. Among the numbers only integers have a
rule: a decimal is written in its shortest form, which need not be the one that it was read from.

**The bound.** Two steps a character are enough, because each bracket, comma and line break is a
character that no value inside can claim.
-/

namespace LogDigest.Json

/-! ## Blanks before a value -/

theorem skipBlanks_skipBlanks (s : List Char) : skipBlanks (skipBlanks s) = skipBlanks s := by
  induction s with
  | nil => rfl
  | cons c s ih =>
    by_cases hc : isBlank c = true
    · have hskip : skipBlanks (c :: s) = skipBlanks s := List.dropWhile_cons_of_pos hc
      rw [hskip, ih]
    · rw [skipBlanks_cons (Bool.eq_false_iff.2 hc), skipBlanks_cons (Bool.eq_false_iff.2 hc)]

theorem readValue_skipBlanks (bound : Nat) (s : List Char) :
    readValue bound (skipBlanks s) = readValue bound s := by
  cases bound with
  | zero => rw [readValue, readValue]
  | succ bound => rw [readValue, readValue, skipBlanks_skipBlanks]

theorem readItems_skipBlanks (bound : Nat) (s : List Char) :
    readItems bound (skipBlanks s) = readItems bound s := by
  cases bound with
  | zero => rw [readItems, readItems]
  | succ bound => rw [readItems, readItems, readValue_skipBlanks]

theorem readMembers_skipBlanks (bound : Nat) (s : List Char) :
    readMembers bound (skipBlanks s) = readMembers bound s := by
  cases bound with
  | zero => rw [readMembers, readMembers]
  | succ bound => rw [readMembers, readMembers, skipBlanks_skipBlanks]

/-! ## Values -/

/-- The value is read from its form with one item a line, as it stands at a level of nesting. -/
structure Reads (level : Nat) (v : Json) : Prop where
  /-- It opens with a character that neither is a blank nor closes a list. -/
  opens : ∃ c t, prettyAt level v = c :: t ∧ isBlank c = false ∧ c ≠ ']'
  read : ∀ {b s : List Char} {bound : Nat}, Blanks b → NumberEnds s →
    2 * (prettyAt level v).length ≤ bound →
      readValue bound (b ++ (prettyAt level v ++ s)) = .ok (v, s)

/-- A value is read if it is from its first character on. -/
theorem Reads.of_opens {level : Nat} {v : Json} {c : Char} {t : List Char}
    (htext : prettyAt level v = c :: t) (hc : isBlank c = false ∧ c ≠ ']')
    (hread : ∀ {s : List Char} {bound : Nat}, NumberEnds s → 2 * t.length ≤ bound →
      readValue (bound + 1) (c :: (t ++ s)) = .ok (v, s)) : Reads level v where
  opens := ⟨c, t, htext, hc⟩
  read := by
    intro b s bound hb hs hbound
    rw [htext, List.length_cons] at hbound
    obtain ⟨bound, rfl⟩ := Nat.exists_eq_add_one.2 (show 0 < bound by omega)
    rw [htext, ← readValue_skipBlanks, skipBlanks_append hb, List.cons_append,
      skipBlanks_cons hc.1]
    exact hread hs (by omega)

theorem reads_null (level : Nat) : Reads level .null := by
  refine .of_opens (c := 'n') (t := ['u', 'l', 'l']) (by rw [prettyAt]) (by decide) ?_
  intro s bound _ _
  simp [readValue, skipBlanks_cons (show isBlank 'n' = false by decide), readWord, Except.map]

theorem reads_bool (level : Nat) (b : Bool) : Reads level (.bool b) := by
  cases b with
  | true =>
    refine .of_opens (c := 't') (t := ['r', 'u', 'e']) (by rw [prettyAt, if_pos rfl]) (by decide) ?_
    intro s bound _ _
    simp [readValue, skipBlanks_cons (show isBlank 't' = false by decide), readWord, Except.map]
  | false =>
    refine .of_opens (c := 'f') (t := ['a', 'l', 's', 'e']) (by rw [prettyAt]; rfl) (by decide) ?_
    intro s bound _ _
    simp [readValue, skipBlanks_cons (show isBlank 'f' = false by decide), readWord, Except.map]

theorem reads_string (level : Nat) (t : String) : Reads level (.string t) := by
  refine .of_opens (by rw [prettyAt, quote_eq]) (by decide) ?_
  intro s bound _ _
  rw [readValue, skipBlanks_cons (by decide)]
  simp [readString_inside, Except.map]

theorem reads_int (level : Nat) {n : Int}
    (hn : -9223372036854775808 ≤ n ∧ n ≤ 18446744073709551615) : Reads level (.int n) := by
  obtain ⟨c, t, htext, hc⟩ := text_integer_eq_cons n
  have hne : c ≠ 'n' ∧ c ≠ 't' ∧ c ≠ 'f' ∧ c ≠ '"' ∧ c ≠ ']' := by
    refine ⟨?_, ?_, ?_, ?_, ?_⟩ <;>
    · rintro rfl
      revert hc
      decide
  refine .of_opens (by rw [Json.int, prettyAt, htext]) ⟨(isBlank_of_opensInteger hc).1, hne.2.2.2.2⟩
    ?_
  intro s bound hs _
  have hread := readNumber_integer hn hs
  rw [htext, List.cons_append] at hread
  rw [readValue, skipBlanks_cons (isBlank_of_opensInteger hc).1]
  simp only [hne, if_false, hc, if_true, hread]
  rfl

/-! ## Lists -/

theorem one_le_length_newline (level : Nat) : 1 ≤ (newline level).length := by
  rw [newline, List.length_cons]
  omega

theorem numberEnds_comma (s : List Char) : NumberEnds (',' :: s) := numberEnds_cons (by decide) s

/-- Items open with the line of the first. -/
theorem prettyItems_cons (level : Nat) (v : Json) (vs : List Json) :
    ∃ rest, prettyItems level (v :: vs) = newline level ++ (prettyAt level v ++ rest) := by
  cases vs with
  | nil => exact ⟨[], by rw [prettyItems, List.append_nil]⟩
  | cons w vs => exact ⟨_, by rw [prettyItems, List.append_assoc]⟩

/-- Items are read, and the bracket on the line behind them. -/
theorem readItems_pretty {level close : Nat} {v : Json} {vs : List Json}
    (h : ∀ w ∈ v :: vs, Reads level w) {s : List Char} {bound : Nat}
    (hbound : 2 * (prettyItems level (v :: vs)).length ≤ bound) :
    readItems bound (prettyItems level (v :: vs) ++ (newline close ++ ']' :: s)) =
      .ok (v :: vs, s) := by
  have hline := one_le_length_newline level
  induction vs generalizing v bound with
  | nil =>
    have hv := h v List.mem_cons_self
    rw [prettyItems, List.length_append] at hbound
    obtain ⟨bound, rfl⟩ := Nat.exists_eq_add_one.2 (show 0 < bound by omega)
    have hends : NumberEnds (newline close ++ ']' :: s) :=
      numberEnds_append (blanks_newline close) (by decide) s
    rw [prettyItems, List.append_assoc, readItems,
      hv.read (blanks_newline level) hends (by omega)]
    simp only [skipBlanks_append (blanks_newline close),
      skipBlanks_cons (show isBlank ']' = false by decide)]
  | cons w vs ih =>
    have hv := h v List.mem_cons_self
    rw [prettyItems, List.length_append, List.length_append, List.length_cons] at hbound
    obtain ⟨bound, rfl⟩ := Nat.exists_eq_add_one.2 (show 0 < bound by omega)
    have hrest : readItems bound (prettyItems level (w :: vs) ++ (newline close ++ ']' :: s)) =
        .ok (w :: vs, s) := ih (fun u hu => h u (List.mem_cons_of_mem v hu)) (by omega)
    rw [prettyItems, List.append_assoc, List.append_assoc, List.cons_append, readItems,
      hv.read (blanks_newline level) (numberEnds_comma _) (by omega)]
    simp only [skipBlanks_cons (show isBlank ',' = false by decide), hrest, Except.map]

/-- A list that does not close at once is read item by item. -/
theorem readValue_bracket {c : Char} {t s : List Char} (hs : skipBlanks s = c :: t) (hc : c ≠ ']')
    (bound : Nat) :
    readValue (bound + 1) ('[' :: s) =
      (readItems bound s).map fun (vs, rest) => (.array vs, rest) := by
  have hitems := readItems_skipBlanks bound s
  rw [hs] at hitems
  have hdigit : '['.isDigit = false := by decide
  rw [readValue, skipBlanks_cons (by decide)]
  simp only [Char.reduceEq, hdigit, Bool.false_eq_true, or_self, if_false, if_true, hs]
  split
  · rename_i heq
    exact absurd (List.cons.inj heq).1 hc
  · rw [hitems]

theorem reads_array {level : Nat} {vs : List Json} (h : ∀ v ∈ vs, Reads (level + 1) v) :
    Reads level (.array vs) := by
  cases vs with
  | nil =>
    refine .of_opens (c := '[') (t := [']']) (by rw [prettyAt]) (by decide) ?_
    intro s bound _ _
    simp [readValue, skipBlanks_cons (show isBlank '[' = false by decide),
      skipBlanks_cons (show isBlank ']' = false by decide)]
  | cons v vs =>
    have htext : prettyAt level (.array (v :: vs)) =
        '[' :: (prettyItems (level + 1) (v :: vs) ++ (newline level ++ [']'])) := by
      rw [prettyAt, List.cons_append, List.cons_append, List.append_assoc]
    refine .of_opens htext (by decide) ?_
    intro s bound _ hbound
    rw [List.length_append] at hbound
    have hitems : readItems bound
        (prettyItems (level + 1) (v :: vs) ++ (newline level ++ ']' :: s)) = .ok (v :: vs, s) :=
      readItems_pretty h (by omega)
    -- The reader looks for the closing bracket first, and the first item does not open with one.
    obtain ⟨c, t, hopens, hblank, hc⟩ := (h v List.mem_cons_self).opens
    obtain ⟨rest, hrest⟩ := prettyItems_cons (level + 1) v vs
    have hfirst : skipBlanks (prettyItems (level + 1) (v :: vs) ++ (newline level ++ ']' :: s)) =
        c :: (t ++ (rest ++ (newline level ++ ']' :: s))) := by
      rw [hrest, List.append_assoc, List.append_assoc, skipBlanks_append (blanks_newline _), hopens,
        List.cons_append, skipBlanks_cons hblank]
    rw [List.append_assoc, List.append_assoc, List.singleton_append, readValue_bracket hfirst hc,
      hitems]
    rfl

/-! ## Objects -/

/-- Members open with the line of the first, and its name. -/
theorem prettyMembers_cons (level : Nat) (k : String) (v : Json) (ms : List (String × Json)) :
    ∃ rest, prettyMembers level ((k, v) :: ms) =
      newline level ++ ('"' :: (inside k ++ (':' :: ' ' :: (prettyAt level v ++ rest)))) := by
  cases ms with
  | nil =>
    exact ⟨[], by rw [prettyMembers, quote_eq, List.append_assoc, List.append_nil]; rfl⟩
  | cons m ms =>
    refine ⟨',' :: prettyMembers level (m :: ms), ?_⟩
    simp only [prettyMembers, quote_eq, List.append_assoc, List.cons_append]

/-- The name of a member and its value are read, and what stands behind the value decides whether
there are more. -/
theorem readMembers_member {level bound : Nat} {k : String} {v : Json} (h : Reads level v)
    {s : List Char} (hs : NumberEnds s) (hbound : 2 * (prettyAt level v).length ≤ bound)
    {text : List Char} (htext : text =
      newline level ++ ('"' :: (inside k ++ (':' :: ' ' :: (prettyAt level v ++ s))))) :
    (∀ rest, skipBlanks s = '\x7d' :: rest →
      readMembers (bound + 1) text = .ok ([(k, v)], rest)) ∧
    ∀ rest, skipBlanks s = ',' :: rest →
      readMembers (bound + 1) text =
        (readMembers bound rest).map fun (ms, rest) => ((k, v) :: ms, rest) := by
  have hvalue := h.read blanks_space hs hbound
  have hcolon := readColon_append blanks_nil (' ' :: (prettyAt level v ++ s))
  rw [List.nil_append] at hcolon
  rw [List.singleton_append] at hvalue
  have hname : skipBlanks text = '"' :: (inside k ++ (':' :: ' ' :: (prettyAt level v ++ s))) := by
    rw [htext, skipBlanks_append (blanks_newline level), skipBlanks_cons (by decide)]
  constructor
  · intro rest hrest
    simp only [readMembers, hname, readString_inside, hcolon, hvalue, hrest]
  · intro rest hrest
    simp only [readMembers, hname, readString_inside, hcolon, hvalue, hrest]

/-- Members are read, and the brace on the line behind them. -/
theorem readMembers_pretty {level close : Nat} {m : String × Json} {ms : List (String × Json)}
    (h : ∀ n ∈ m :: ms, Reads level n.2) {s : List Char} {bound : Nat}
    (hbound : 2 * (prettyMembers level (m :: ms)).length ≤ bound) :
    readMembers bound (prettyMembers level (m :: ms) ++ (newline close ++ '\x7d' :: s)) =
      .ok (m :: ms, s) := by
  induction ms generalizing m bound with
  | nil =>
    obtain ⟨k, v⟩ := m
    have hv : Reads level v := h (k, v) List.mem_cons_self
    have htext : prettyMembers level [(k, v)] ++ (newline close ++ '\x7d' :: s) =
        newline level ++ ('"' :: (inside k ++ (':' :: ' ' ::
          (prettyAt level v ++ (newline close ++ '\x7d' :: s))))) := by
      simp only [prettyMembers, quote_eq, List.append_assoc, List.cons_append]
    have hends : NumberEnds (newline close ++ '\x7d' :: s) :=
      numberEnds_append (blanks_newline close) (by decide) s
    simp only [prettyMembers, List.length_append, List.length_cons] at hbound
    obtain ⟨bound, rfl⟩ := Nat.exists_eq_add_one.2 (show 0 < bound by omega)
    refine (readMembers_member hv hends (by omega) htext).1 s ?_
    rw [skipBlanks_append (blanks_newline close), skipBlanks_cons (by decide)]
  | cons m' ms ih =>
    obtain ⟨k, v⟩ := m
    have hv : Reads level v := h (k, v) List.mem_cons_self
    have htext : prettyMembers level ((k, v) :: m' :: ms) ++ (newline close ++ '\x7d' :: s) =
        newline level ++ ('"' :: (inside k ++ (':' :: ' ' :: (prettyAt level v ++
          (',' :: (prettyMembers level (m' :: ms) ++ (newline close ++ '\x7d' :: s))))))) := by
      simp only [prettyMembers, quote_eq, List.append_assoc, List.cons_append]
    simp only [prettyMembers, List.length_append, List.length_cons] at hbound
    obtain ⟨bound, rfl⟩ := Nat.exists_eq_add_one.2 (show 0 < bound by omega)
    have hrest : readMembers bound (prettyMembers level (m' :: ms) ++
        (newline close ++ '\x7d' :: s)) = .ok (m' :: ms, s) :=
      ih (fun n hn => h n (List.mem_cons_of_mem _ hn)) (by omega)
    rw [(readMembers_member hv (numberEnds_comma _) (by omega) htext).2 _
      (skipBlanks_cons (by decide) _), hrest]
    rfl

/-- An object that opens with a name is read member by member. -/
theorem readValue_brace {t s : List Char} (hs : skipBlanks s = '"' :: t) (bound : Nat) :
    readValue (bound + 1) ('\x7b' :: s) =
      (readMembers bound s).map fun (ms, rest) => (.object ms, rest) := by
  have hmembers := readMembers_skipBlanks bound s
  rw [hs] at hmembers
  have hdigit : '\x7b'.isDigit = false := by decide
  rw [readValue, skipBlanks_cons (by decide)]
  simp only [Char.reduceEq, hdigit, Bool.false_eq_true, or_self, if_false, if_true, hs, ← hmembers]
  rfl

theorem reads_object {level : Nat} {ms : List (String × Json)}
    (h : ∀ m ∈ ms, Reads (level + 1) m.2) : Reads level (.object ms) := by
  cases ms with
  | nil =>
    refine .of_opens (c := '\x7b') (t := ['\x7d']) (by rw [prettyAt]) (by decide) ?_
    intro s bound _ _
    simp [readValue, skipBlanks_cons (show isBlank '\x7b' = false by decide),
      skipBlanks_cons (show isBlank '\x7d' = false by decide)]
  | cons m ms =>
    have htext : prettyAt level (.object (m :: ms)) =
        '\x7b' :: (prettyMembers (level + 1) (m :: ms) ++ (newline level ++ ['\x7d'])) := by
      rw [prettyAt, List.cons_append, List.cons_append, List.append_assoc]
    refine .of_opens htext (by decide) ?_
    intro s bound _ hbound
    rw [List.length_append] at hbound
    have hmembers : readMembers bound (prettyMembers (level + 1) (m :: ms) ++
        (newline level ++ '\x7d' :: s)) = .ok (m :: ms, s) := readMembers_pretty h (by omega)
    obtain ⟨k, v⟩ := m
    obtain ⟨rest, hrest⟩ := prettyMembers_cons (level + 1) k v ms
    have hfirst : skipBlanks
        (prettyMembers (level + 1) ((k, v) :: ms) ++ (newline level ++ '\x7d' :: s)) =
          '"' :: (inside k ++ (':' :: ' ' :: (prettyAt (level + 1) v ++ rest)) ++
            (newline level ++ '\x7d' :: s)) := by
      rw [hrest, List.append_assoc, skipBlanks_append (blanks_newline _), List.cons_append,
        skipBlanks_cons (by decide)]
    rw [List.append_assoc, List.append_assoc, List.singleton_append, readValue_brace hfirst,
      hmembers]
    rfl

/-! ## Whole values -/

/-- A value all numbers of which are integers that fit 64 bits. -/
inductive Whole : Json → Prop
  | null : Whole .null
  | bool (b : Bool) : Whole (.bool b)
  | int {n : Int} (hn : -9223372036854775808 ≤ n ∧ n ≤ 18446744073709551615) : Whole (.int n)
  | string (t : String) : Whole (.string t)
  | array {vs : List Json} (h : ∀ v ∈ vs, Whole v) : Whole (.array vs)
  | object {ms : List (String × Json)} (h : ∀ m ∈ ms, Whole m.2) : Whole (.object ms)

theorem Whole.reads {v : Json} (h : v.Whole) (level : Nat) : Reads level v := by
  induction h generalizing level with
  | null => exact reads_null level
  | bool b => exact reads_bool level b
  | int hn => exact reads_int level hn
  | string t => exact reads_string level t
  | array _ ih => exact reads_array fun v hv => ih v hv (level + 1)
  | object _ ih => exact reads_object fun m hm => ih m hm (level + 1)

/-- **A value is read from what it is written as** with one item a line. -/
theorem Whole.ofText_pretty {v : Json} (h : v.Whole) : ofText v.pretty.toList = .ok v := by
  have hread : readValue (2 * (prettyAt 0 v).length + 2) ([] ++ (prettyAt 0 v ++ [])) =
      .ok (v, []) := (h.reads 0).read blanks_nil nofun (by omega)
  rw [List.nil_append, List.append_nil] at hread
  rw [ofText, pretty, String.toList_ofList, hread]
  rfl

end LogDigest.Json
