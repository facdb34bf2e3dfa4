import LogDigest.Proofs.Composing
import LogDigest.Proofs.Permissive

/-!
# Printed filters compile back

A criterion is read back from its text, and a filter from the texts of its criteria with connectors
between them (`CompiledFilter.printed_compiles_back`).

**One criterion.** A text is read as a criterion if a single equals sign stands between a name of
the field and a value of its kind (`Criterion.ofText_eq_ok_iff`). The printed text has the field's
own name before the sign and behind it a value without outer blanks, which reads as itself: a text
stands for itself, an integer is read from its numeral, and a moment from its numbers.

**Filters.** The words of a clause are joined by single spaces, and none of them is a connector.
Printing keeps it so (`IsClause`): a name and the equals sign stand directly before the first word
of the value, and what is behind that word was there before, or is a time of day. So the printed
text comes apart at the connectors that were put in, and nowhere else.
-/

namespace LogDigest

open Text

/-! ## Values -/

theorem Field.isWord_name (f : Field) : IsWord f.name.toList := by
  cases f <;> decide

theorem Field.equals_notMem_name (f : Field) : '=' ∉ f.name.toList := by
  cases f <;> decide

theorem Field.ofName?_name (f : Field) : ofName? f.name.toList = some f := by
  cases f <;> decide +kernel

/-- Outer blanks do not count. -/
theorem Timestamp.ofText?_trim (s : List Char) : ofText? (trim s) = ofText? s := by
  rw [ofText?, ofText?, trim_trim]

namespace Criterion

/-- A text without outer blanks stands for a value of this kind. -/
inductive Denotes : FieldKind → List Char → CriterionValue → Prop
  | text (s : List Char) : Denotes .text s (.text (String.ofList s))
  | integer {s : List Char} {n : Int64} (h : int64? s = some n) : Denotes .integer s (.integer n)
  | moment {s : List Char} {t : Timestamp} (h : Timestamp.ofText? s = some t) :
      Denotes .moment s (.moment t)

theorem readValue_eq_ok_iff {text s : List Char} {field : Field} {c : Criterion} :
    readValue text field s = .ok c ↔ c.field = field ∧ Denotes field.kind s c.value := by
  obtain ⟨f, value⟩ := c
  rw [readValue]
  cases field.kind with
  | text =>
    constructor
    · intro h
      cases h
      exact ⟨rfl, .text s⟩
    · rintro ⟨hfield, hvalue⟩
      cases hfield
      cases hvalue
      rfl
  | integer =>
    dsimp only
    constructor
    · intro h
      split at h
      · rename_i n hn
        cases h
        exact ⟨rfl, .integer hn⟩
      · cases h
    · rintro ⟨hfield, hvalue⟩
      cases hfield
      cases hvalue with
      | integer hn => rw [hn]
  | moment =>
    dsimp only
    constructor
    · intro h
      split at h
      · rename_i t ht
        cases h
        exact ⟨rfl, .moment ht⟩
      · cases h
    · rintro ⟨hfield, hvalue⟩
      cases hfield
      cases hvalue with
      | moment ht => rw [ht]
  | identity =>
    constructor
    · intro h
      cases h
    · rintro ⟨-, hvalue⟩
      cases hvalue

/-- A criterion stands on both sides of a single equals sign. -/
theorem ofText_eq_ok_iff {text : List Char} {c : Criterion} :
    ofText text = .ok c ↔ ∃ name value, text = name ++ '=' :: value ∧ '=' ∉ name ∧ '=' ∉ value ∧
      trim name ≠ [] ∧ Field.ofName? (trim name) = some c.field ∧
      Denotes c.field.kind (trim value) c.value := by
  rw [ofText.eq_def]
  constructor
  · intro h
    split at h
    · rename_i name value hpieces
      obtain ⟨htext, hname, hvalue⟩ := pieces_eq_pair_iff.1 hpieces
      dsimp only at h
      split at h
      · cases h
      · rename_i hempty
        split at h
        · cases h
        · rename_i field hfield
          obtain ⟨rfl, hdenotes⟩ := readValue_eq_ok_iff.1 h
          exact ⟨name, value, htext, hname, hvalue, by simpa using hempty, hfield, hdenotes⟩
    · cases h
  · rintro ⟨name, value, htext, hname, hvalue, hne, hfield, hdenotes⟩
    have hpieces := pieces_eq_pair_iff.2 ⟨htext, hname, hvalue⟩
    have hempty : (trim name).isEmpty = false := by simpa using hne
    simp only [hpieces, hempty, Bool.false_eq_true, if_false, hfield]
    exact readValue_eq_ok_iff.2 ⟨rfl, hdenotes⟩

namespace Denotes

variable {kind : FieldKind} {s : List Char} {x : CriterionValue}

theorem valueText (h : Denotes kind (trim s) x) : Denotes kind (trim (valueText x).toList) x := by
  cases h with
  | text =>
    rw [Criterion.valueText, String.toList_ofList, trim_trim]
    exact .text (trim s)
  | integer h =>
    rw [Criterion.valueText, trim_isWord (isWord_toString _)]
    exact .integer (int64?_toString _)
  | @moment _ t h =>
    -- What was read from a text is shown as itself.
    have hshown : t.shown = t := Timestamp.shown_eq_self_iff.2 (Timestamp.isShown_of_ofText? h)
    refine .moment ?_
    rw [Criterion.valueText, Timestamp.ofText?_trim, Timestamp.ofText?_exact, hshown]

theorem equals_notMem (h : Denotes kind (trim s) x) (hs : '=' ∉ s) :
    '=' ∉ (Criterion.valueText x).toList := by
  intro hmem
  cases h with
  | text =>
    rw [Criterion.valueText, String.toList_ofList] at hmem
    exact hs (mem_of_mem_trim hmem)
  | integer h => exact absurd (isDigit_or_eq_of_mem_toString hmem) (by decide)
  | @moment _ t h =>
    rw [Criterion.valueText, t.toList_exact] at hmem
    exact absurd (Timestamp.isDigit_or_mem_of_mem_spaced t.time.isFraction_fraction hmem)
      (by decide)

end Denotes

theorem toList_text (c : Criterion) :
    c.text.toList = c.field.name.toList ++ '=' :: (valueText c.value).toList := by
  have hequals : "=".toList = ['='] := rfl
  rw [text, String.toList_append, String.toList_append, hequals, List.append_assoc,
    List.singleton_append]

/-- **A criterion is read back from its text.** -/
theorem ofText_text {text : List Char} {c : Criterion} (h : ofText text = .ok c) :
    ofText c.text.toList = .ok c := by
  obtain ⟨name, value, -, -, hvalue, -, -, hdenotes⟩ := ofText_eq_ok_iff.1 h
  have hname : trim c.field.name.toList = c.field.name.toList := trim_isWord c.field.isWord_name
  refine ofText_eq_ok_iff.2 ⟨c.field.name.toList, (valueText c.value).toList, c.toList_text,
    c.field.equals_notMem_name, hdenotes.equals_notMem hvalue, ?_, ?_, hdenotes.valueText⟩
  · rw [hname]
    exact c.field.isWord_name.1
  · rw [hname, c.field.ofName?_name]

end Criterion

/-! ## Clauses and their ends -/

/-- A word that joins no criteria. -/
def IsPlain (w : List Char) : Prop := IsWord w ∧ isConnector w = false

/-- Plain words joined by single spaces. -/
def IsClause (t : List Char) : Prop := ∃ w ws, t = unwords (w :: ws) ∧ ∀ v ∈ w :: ws, IsPlain v

/-- What stands in a clause behind the beginning of a word: the rest of this word and further
words. -/
def IsClauseEnd (t : List Char) : Prop :=
  ∃ q ws, t = unwords (q :: ws) ∧ NoBlank q ∧ ∀ v ∈ ws, IsPlain v

theorem isPlain_of_mem {w : List Char} {c : Char} (hw : IsWord w) (hc : c ∈ w)
    (hand : c ∉ andWord) (hor : c ∉ orWord) : IsPlain w := by
  refine ⟨hw, ?_⟩
  rw [isConnector, Bool.or_eq_false_iff, decide_eq_false_iff_not, decide_eq_false_iff_not]
  constructor
  · rintro rfl
    exact hand hc
  · rintro rfl
    exact hor hc

theorem isClause_of_mem_clauses {text : String} {t : List Char}
    (h : t ∈ CompiledFilter.clauses text) : IsClause t := by
  obtain ⟨ws, hws, rfl⟩ := List.mem_map.1 h
  obtain ⟨hpart, hne⟩ := List.mem_filter.1 hws
  cases ws with
  | nil => exact absurd hne (by decide)
  | cons w ws =>
    refine ⟨w, ws, rfl, fun v hv => ?_⟩
    obtain ⟨hmem, hconnector⟩ := of_mem_splitOnP hpart v hv
    exact ⟨isWord_of_mem_words hmem, hconnector⟩

theorem isClauseEnd_of_noBlank {q : List Char} (h : NoBlank q) : IsClauseEnd q :=
  ⟨q, [], List.intercalate_singleton.symm, h, nofun⟩

/-- What stands behind a character of a word. -/
theorem isClauseEnd_of_append {ws : List (List Char)} {a b : List Char} {c : Char}
    (hc : isBlank c = false) (hws : ∀ w ∈ ws, IsPlain w) (h : unwords ws = a ++ c :: b) :
    IsClauseEnd b := by
  induction ws generalizing a with
  | nil =>
    have hnil : unwords [] = [] := rfl
    rw [hnil] at h
    simp at h
  | cons w ws ih =>
    obtain ⟨hw, hmore⟩ := List.forall_mem_cons.1 hws
    cases ws with
    | nil =>
      have hlast : w = a ++ c :: b := by rw [← h, unwords, List.intercalate_singleton]
      refine isClauseEnd_of_noBlank ?_
      have hblank := hw.1.2
      rw [hlast, noBlank_append, noBlank_cons] at hblank
      exact hblank.2.2
    | cons v ws =>
      rw [unwords_cons_cons] at h
      -- The character stands in the first word or behind the space after it.
      rcases List.append_eq_append_iff.1 h with ⟨a', -, hbehind⟩ | ⟨q, hfirst, hbehind⟩
      · cases a' with
        | nil =>
          obtain ⟨hspace, -⟩ := List.cons_eq_cons.1 hbehind
          rw [← hspace] at hc
          exact absurd hc (by decide)
        | cons d a' => exact ih hmore (List.cons_eq_cons.1 hbehind).2
      · cases q with
        | nil =>
          obtain ⟨hspace, -⟩ := List.cons_eq_cons.1 hbehind
          rw [hspace] at hc
          exact absurd hc (by decide)
        | cons d q =>
          obtain ⟨-, hb⟩ := List.cons_eq_cons.1 hbehind
          have hblank := hw.1.2
          rw [hfirst, noBlank_append, noBlank_cons] at hblank
          refine ⟨q, v :: ws, ?_, hblank.2.2, hmore⟩
          rw [hb, unwords_cons_cons]
          rfl

/-- Behind the equals sign of a clause. -/
theorem IsClause.isClauseEnd {a b : List Char} (h : IsClause (a ++ '=' :: b)) : IsClauseEnd b := by
  obtain ⟨w, ws, hwords, hplain⟩ := h
  exact isClauseEnd_of_append (by decide) hplain hwords.symm

theorem isClauseEnd_trim {t : List Char} (h : IsClauseEnd t) : IsClauseEnd (trim t) := by
  obtain ⟨q, ws, rfl, hq, hws⟩ := h
  have hwords : ∀ v ∈ ws, IsWord v := fun v hv => (hws v hv).1
  by_cases hne : q = []
  · subst hne
    cases ws with
    | nil => exact isClauseEnd_of_noBlank noBlank_nil
    | cons w ws =>
      -- The end begins with the space before its first whole word.
      have hspace : trim (unwords ([] :: w :: ws)) = unwords (w :: ws) := by
        rw [unwords_cons_cons, List.nil_append, trim, trimLeft,
          List.dropWhile_cons_of_pos (by decide)]
        exact trim_unwords hwords
      obtain ⟨hw, hmore⟩ := List.forall_mem_cons.1 hws
      exact ⟨w, ws, hspace, hw.1.2, hmore⟩
  · have hall : ∀ v ∈ q :: ws, IsWord v := List.forall_mem_cons.2 ⟨⟨hne, hq⟩, hwords⟩
    rw [trim_unwords hall]
    exact ⟨q, ws, rfl, hq, hws⟩

/-- A word with an equals sign before the end of a clause makes a clause. -/
theorem IsClauseEnd.isClause {w t : List Char} (h : IsClauseEnd t) (hw : IsWord w) (heq : '=' ∈ w) :
    IsClause (w ++ t) := by
  obtain ⟨q, ws, rfl, hq, hws⟩ := h
  refine ⟨w ++ q, ws, unwords_cons_append w q ws, List.forall_mem_cons.2 ⟨?_, hws⟩⟩
  exact isPlain_of_mem (hw.append_noBlank hq) (List.mem_append_left q heq) (by decide) (by decide)

namespace Criterion

theorem Denotes.isClauseEnd {kind : FieldKind} {s : List Char} {x : CriterionValue}
    (h : Denotes kind s x) (hs : IsClauseEnd s) : IsClauseEnd (Criterion.valueText x).toList := by
  cases h with
  | text =>
    rw [Criterion.valueText, String.toList_ofList]
    exact hs
  | @integer _ n h => exact isClauseEnd_of_noBlank (isWord_toString n.toInt).2
  | @moment _ t h =>
    have hclock : IsWord (t.time.text.toList ++ t.time.fraction.toList) :=
      Timestamp.isWord_clock t.time.isFraction_fraction
    have hcolon : ':' ∈ t.time.text.toList ++ t.time.fraction.toList := by
      rw [Time.toList_text]
      simp
    refine ⟨t.date.text.toList, [t.time.text.toList ++ t.time.fraction.toList], ?_,
      t.date.isWord_text.2, ?_⟩
    · rw [Criterion.valueText, t.toList_exact, Timestamp.spaced, unwords_cons_cons, unwords,
        List.intercalate_singleton]
    · rw [List.forall_mem_singleton]
      exact isPlain_of_mem hclock hcolon (by decide) (by decide)

theorem isClause_text {t : List Char} {c : Criterion} (h : ofText t = .ok c) (ht : IsClause t) :
    IsClause c.text.toList := by
  obtain ⟨name, value, rfl, -, -, -, -, hdenotes⟩ := ofText_eq_ok_iff.1 h
  have hname : IsWord (c.field.name.toList ++ ['=']) :=
    c.field.isWord_name.append_noBlank (by decide)
  have hequals : c.text.toList = c.field.name.toList ++ ['='] ++ (valueText c.value).toList := by
    rw [toList_text, List.append_assoc, List.singleton_append]
  rw [hequals]
  exact (hdenotes.isClauseEnd (isClauseEnd_trim ht.isClauseEnd)).isClause hname (by simp)

end Criterion

/-! ## Printed filters -/

namespace CompiledFilter

/-- The texts of the criteria of a group with `AND` between them. -/
def groupText (group : List Criterion) : String := " AND ".intercalate (group.map Criterion.text)

/-- The texts of the groups with `OR` between them. -/
def text (f : CompiledFilter) : String := " OR ".intercalate (f.groups.map groupText)

def printed (group : List Criterion) : List (List Char) := group.map fun c => c.text.toList

theorem groupText_cons_cons (c d : Criterion) (cs : List Criterion) :
    groupText (c :: d :: cs) = joined .and c.text (groupText (d :: cs)) := by
  have hword : " AND " = " " ++ ("AND" ++ " ") := rfl
  rw [groupText, List.map_cons, List.map_cons, String.intercalate_cons_cons, joined, groupText,
    List.map_cons, hword]
  simp only [Connector.text, String.append_assoc]

theorem text_cons_cons (g g' : List Criterion) (gs : List (List Criterion)) :
    text { groups := g :: g' :: gs } = joined .or (groupText g) (text { groups := g' :: gs }) := by
  have hword : " OR " = " " ++ ("OR" ++ " ") := rfl
  rw [text, List.map_cons, List.map_cons, String.intercalate_cons_cons, joined, text,
    List.map_cons, hword]
  simp only [Connector.text, String.append_assoc]

/-- A clause is a filter text of one section with one clause, itself. -/
theorem clauseSections_of_isClause {s : String} (h : IsClause s.toList) :
    clauseSections s = [[s.toList]] := by
  obtain ⟨w, ws, hwords, hplain⟩ := h
  have hconnector : ∀ v ∈ w :: ws, isConnector v = false := fun v hv => (hplain v hv).2
  have hor : ∀ v ∈ w :: ws, decide (v = orWord) = false := fun v hv =>
    (Bool.or_eq_false_iff.1 (hconnector v hv)).2
  rw [clauseSections, hwords, words_unwords fun v hv => (hplain v hv).1,
    List.splitOnP_eq_singleton hor, List.map_singleton, clausesOf,
    List.splitOnP_eq_singleton hconnector]
  rfl

theorem clauseSections_groupText {group : List Criterion} (hne : group ≠ [])
    (h : ∀ c ∈ group, IsClause c.text.toList) :
    clauseSections (groupText group) = [printed group] := by
  induction group with
  | nil => exact absurd rfl hne
  | cons c cs ih =>
    obtain ⟨hc, hcs⟩ := List.forall_mem_cons.1 h
    cases cs with
    | nil =>
      rw [groupText, List.map_singleton, String.intercalate_singleton,
        clauseSections_of_isClause hc, printed, List.map_singleton]
    | cons d cs =>
      rw [groupText_cons_cons, clauseSections_joined_and, clauseSections_of_isClause hc,
        ih (List.cons_ne_nil d cs) hcs]
      rfl

theorem clauseSections_text {groups : List (List Criterion)} (hne : groups ≠ [])
    (hnil : [] ∉ groups) (h : ∀ group ∈ groups, ∀ c ∈ group, IsClause c.text.toList) :
    clauseSections (text { groups }) = groups.map printed := by
  induction groups with
  | nil => exact absurd rfl hne
  | cons g gs ih =>
    obtain ⟨hg, hgs⟩ := List.forall_mem_cons.1 h
    obtain ⟨hfirst, hmore⟩ := List.ne_and_not_mem_of_not_mem_cons hnil
    have hsection := clauseSections_groupText (Ne.symm hfirst) hg
    cases gs with
    | nil =>
      rw [text, List.map_singleton, String.intercalate_singleton, hsection, List.map_singleton]
    | cons g' gs =>
      rw [text_cons_cons, clauseSections_joined_or, hsection, ih (List.cons_ne_nil g' gs) hmore hgs]
      rfl

/-! ### Compiling back -/

variable {connectives : Connectives} {s : String} {f : CompiledFilter}

theorem readsAs_of_mem {ts : List (List Char)} {cs : List Criterion}
    (h : List.Forall₂ ReadsAs ts cs) : ∀ c ∈ cs, ∃ t ∈ ts, ReadsAs t c := by
  induction h with
  | nil => simp
  | @cons t c ts cs hread _ ih =>
    refine List.forall_mem_cons.2 ⟨⟨t, List.mem_cons_self, hread⟩, fun d hd => ?_⟩
    obtain ⟨u, hu, hd⟩ := ih d hd
    exact ⟨u, List.mem_cons_of_mem t hu, hd⟩

theorem exists_clause_of_mem (h : ofText connectives s = .ok f) :
    ∀ group ∈ f.groups, ∀ c ∈ group, ∃ t, IsClause t ∧ Criterion.ofText t = .ok c := by
  intro group hgroup c hc
  obtain ⟨t, ht, hread⟩ :=
    readsAs_of_mem (readsAs_criteria h) c (List.mem_flatten.2 ⟨group, hgroup, hc⟩)
  exact ⟨t, isClause_of_mem_clauses ht, hread⟩

theorem clauseGroups_text (h : ofText connectives s = .ok f) :
    clauseGroups f.text = f.groups.map printed := by
  have hclauses : ∀ group ∈ f.groups, ∀ c ∈ group, IsClause c.text.toList := by
    intro group hgroup c hc
    obtain ⟨t, ht, hread⟩ := exists_clause_of_mem h group hgroup c hc
    exact Criterion.isClause_text hread ht
  by_cases hne : f.groups = []
  · rw [text, hne]
    rfl
  · rw [clauseGroups_eq_filter, clauseSections_text hne (nil_notMem_groups h) hclauses,
      List.filter_eq_self]
    intro texts htexts
    obtain ⟨group, hgroup, rfl⟩ := List.mem_map.1 htexts
    cases group with
    | nil => exact absurd hgroup (nil_notMem_groups h)
    | cons c cs => rfl

theorem readsAs_printed (h : ofText connectives s = .ok f) :
    List.Forall₂ (List.Forall₂ ReadsAs) (f.groups.map printed) f.groups := by
  rw [List.forall₂_map_left_iff, List.forall₂_same]
  intro group hgroup
  rw [printed, List.forall₂_map_left_iff, List.forall₂_same]
  intro c hc
  obtain ⟨t, -, hread⟩ := exists_clause_of_mem h group hgroup c hc
  exact Criterion.ofText_text hread

theorem ofText_orOfAnds_text (h : ofText connectives s = .ok f) :
    ofText .orOfAnds f.text = .ok f := by
  refine ofText_eq_ok_of_readsAs ?_
  rw [criterionGroups_orOfAnds, clauseGroups_text h]
  exact readsAs_printed h

/-- A filter without groups or with one is printed without the word `OR`. -/
theorem ofText_legacy_text (h : ofText .legacy s = .ok f) : ofText .legacy f.text = .ok f := by
  have hreads : List.Forall₂ ReadsAs (clauses f.text) f.criteria := by
    rw [← flatten_clauseGroups, clauseGroups_text h]
    exact List.rel_flatten (readsAs_printed h)
  rw [ofText_legacy_of_readsAs hreads, ← ofText_legacy_of_readsAs (readsAs_criteria h), h]

/-- **Printed filters compile back.** A criterion is read from its text. A filter that was compiled
under either reading is compiled from its text under the reading with groups, and under the legacy
reading as well if that is where it comes from. -/
theorem printed_compiles_back :
    (∀ t c, Criterion.ofText t = .ok c → Criterion.ofText c.text.toList = .ok c) ∧
      ∀ connectives s f, ofText connectives s = .ok f →
        ofText .orOfAnds f.text = .ok f ∧
          (connectives = .legacy → ofText .legacy f.text = .ok f) := by
  refine ⟨fun t c h => Criterion.ofText_text h, fun connectives s f h => ?_⟩
  refine ⟨ofText_orOfAnds_text h, fun hlegacy => ?_⟩
  subst hlegacy
  exact ofText_legacy_text h

/-- A leap second of another time zone, an integer with a sign and zeros, another name of a field, a
value of two words and an empty one. -/
theorem printed_compiles_back_leapSecond :
    let moment : Timestamp :=
      { date := { year := 2024, month := 1, day := 1, year_mem := by decide,
                  month_mem := by decide, day_mem := by decide }
        time := { secondOfDay := 79199, nanosBeyond := 1000000000, secondOfDay_lt := by decide,
                  nanosBeyond_lt := by decide } }
    let address : Criterion := { field := .sourceIp, value := .text "a b" }
    let f : CompiledFilter :=
      { groups := [[{ field := .timestamp, value := .moment moment },
          { field := .threadId, value := .integer 7 }, address,
          { field := .user, value := .text "" }]] }
    Criterion.ofText address.text.toList = .ok address ∧
      f.text = "Timestamp=2024-01-01 21:59:60 AND ThreadId=7 AND IPAddress=a b AND User=" ∧
      ofText .orOfAnds f.text = .ok f ∧ ofText .legacy f.text = .ok f := by
  intro moment address f
  have hcriterion : Criterion.ofText "\tSOURCEIP = a b ".toList = .ok address := by decide +kernel
  have hfilter : ofText .legacy
      "timestamp = 01/Jan/2024:23:59:60 +0200 OR threadid=+007 AND SourceIp = a  b OR User =" =
        .ok f := by
    decide +kernel
  obtain ⟨hgroups, hlegacy⟩ := printed_compiles_back.2 _ _ f hfilter
  exact ⟨printed_compiles_back.1 _ _ hcriterion, by decide +kernel, hgroups, hlegacy rfl⟩

end CompiledFilter

end LogDigest
