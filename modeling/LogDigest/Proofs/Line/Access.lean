import LogDigest.Line.Shape
import LogDigest.Proofs.Line.Combined
import LogDigest.Proofs.Permissive

/-!
# Entries come back from their lines

An entry is written as a line of words by position, and access lines are read by position. So an
entry whose texts are words (`Entry.AccessShaped`) is read from its own line, and every entry of an
access line is of this kind (`Entry.accessLines_agree`). Only what the line does not show is lost:
of the time what is below milliseconds, and whether it lies in a leap second that clocks hide.

**Words of a line.** The line is cut into the words it was written with
(`Entry.AccessShaped.words_line`): each is a word, also the marks for what is absent, and trimming
the end of the line changes no word. Then each place is read on its own.
-/

namespace LogDigest.Entry

open Text

/-! ## Entries of words -/

/-- The entries that access lines hold: every text is a word or some words, and there is no source,
user or size. -/
structure AccessShaped (e : Entry) : Prop where
  level : IsWord e.level.toList
  sourceIp : ∀ ip ∈ e.sourceIp, IsWord ip.toList ∧ ip ≠ "-"
  request : ∀ request ∈ e.request, IsWord request.toList ∧ request ≠ "-"
  message : ∃ ws, (∀ w ∈ ws, IsWord w) ∧ e.message = String.ofList (unwords ws)
  source : e.source = none
  user : e.user = none
  size : e.size = none

def wholeMillis (e : Entry) : Entry := { e with timestamp := e.timestamp.wholeMillis }

theorem of_mem_presentWord? {w : List Char} (hw : IsWord w) :
    ∀ s ∈ presentWord? w, IsWord s.toList ∧ s ≠ "-" := by
  intro s hs
  rw [Option.mem_def, presentWord?] at hs
  split at hs
  · cases hs
  · rename_i hne
    cases hs
    refine ⟨by rwa [String.toList_ofList], fun heq => hne ?_⟩
    rw [← String.toList_ofList (l := w), heq]
    rfl

/-- The entries of access lines are made of words. -/
theorem accessShaped_of_ofAccessLine? {line : List Char} {e : Entry}
    (h : ofAccessLine? line = some e) : e.AccessShaped := by
  rw [ofAccessLine?, ofAccessWords?.eq_def] at h
  split at h
  · rename_i date time level thread ip request hyphen status ws hwords
    have hword : ∀ w ∈ date :: time :: level :: thread :: ip :: request :: hyphen :: status :: ws,
        IsWord w := fun w hw => isWord_of_mem_words (hwords ▸ hw)
    simp only [List.forall_mem_cons] at hword
    obtain ⟨-, -, hlevel, -, hip, hrequest, -, -, hws⟩ := hword
    rw [Option.map_eq_some_iff] at h
    obtain ⟨t, -, rfl⟩ := h
    exact { level := by rwa [String.toList_ofList]
            sourceIp := of_mem_presentWord? hip
            request := of_mem_presentWord? hrequest
            message := ⟨ws, hws, rfl⟩
            source := rfl
            user := rfl
            size := rfl }
  · cases h

/-! ## The words of a line -/

/-- The number of a thread, or the mark for an unknown one. -/
def threadNumber : Option Int64 → List Char
  | some n => (toString n.toInt).toList
  | none => ['?']

def threadWord (threadId : Option Int64) : List Char :=
  ['[', 'T', 'h', 'r', 'e', 'a', 'd', '-'] ++ (threadNumber threadId ++ [']'])

theorem isWord_threadNumber (threadId : Option Int64) : IsWord (threadNumber threadId) := by
  cases threadId with
  | none => decide
  | some n => exact isWord_toString n.toInt

theorem isWord_threadWord (threadId : Option Int64) : IsWord (threadWord threadId) := by
  have hopen : IsWord ['[', 'T', 'h', 'r', 'e', 'a', 'd', '-'] := by decide
  have hclose : NoBlank [']'] := by decide
  exact hopen.append_noBlank (noBlank_append.2 ⟨(isWord_threadNumber threadId).2, hclose⟩)

theorem isBracket_eq_false_of_mem {threadId : Option Int64} {c : Char}
    (h : c ∈ threadNumber threadId) : isBracket c = false := by
  cases threadId with
  | none =>
    rw [threadNumber, List.mem_singleton] at h
    subst h
    decide
  | some n =>
    have hbrackets : '['.isDigit = false ∧ ']'.isDigit = false := by decide
    rcases isDigit_or_eq_of_mem_toString h with hdigit | rfl
    · rw [isBracket, Bool.or_eq_false_iff, decide_eq_false_iff_not, decide_eq_false_iff_not]
      constructor
      all_goals
        rintro rfl
        simp [hbrackets] at hdigit
    · decide

theorem inner_threadWord (threadId : Option Int64) :
    (((threadWord threadId).dropWhile isBracket).reverse.dropWhile isBracket).reverse =
      ['T', 'h', 'r', 'e', 'a', 'd', '-'] ++ threadNumber threadId := by
  have hleft : (threadWord threadId).dropWhile isBracket =
      ['T', 'h', 'r', 'e', 'a', 'd', '-'] ++ threadNumber threadId ++ [']'] := rfl
  have hend : EndsRun isBracket
      (['T', 'h', 'r', 'e', 'a', 'd', '-'] ++ threadNumber threadId).reverse := by
    rw [List.reverse_append]
    refine endsRun_append (List.reverse_ne_nil_iff.2 (isWord_threadNumber threadId).1) ?_ _
    exact fun c hc => isBracket_eq_false_of_mem (List.mem_reverse.1 hc)
  have hclose : ∀ c ∈ [']'], isBracket c = true := List.forall_mem_singleton.2 (by decide)
  rw [hleft, List.reverse_append, List.reverse_singleton, dropWhile_append_of_endsRun hclose hend,
    List.reverse_reverse]

theorem threadOf?_threadWord (threadId : Option Int64) :
    threadOf? (threadWord threadId) = threadId := by
  rw [threadOf?, inner_threadWord]
  have hprefix : (['T', 'h', 'r', 'e', 'a', 'd', '-'].isPrefixOf
      (['T', 'h', 'r', 'e', 'a', 'd', '-'] ++ threadNumber threadId)) = true := by
    rw [List.isPrefixOf_iff_prefix]
    exact List.prefix_append _ _
  rw [if_pos hprefix, List.drop_left]
  cases threadId with
  | none => decide
  | some n => exact int64?_toString n

theorem isWord_getD {field : Option String} (h : ∀ s ∈ field, IsWord s.toList ∧ s ≠ "-") :
    IsWord (field.getD "-").toList := by
  cases field with
  | none => decide
  | some s => exact (h s rfl).1

theorem presentWord?_getD {field : Option String} (h : ∀ s ∈ field, IsWord s.toList ∧ s ≠ "-") :
    presentWord? (field.getD "-").toList = field := by
  cases field with
  | none => rfl
  | some s =>
    have hne : s.toList ≠ ['-'] := fun heq => (h s rfl).2 (String.toList_injective heq)
    rw [Option.getD_some, presentWord?, if_neg hne, String.ofList_toList]

variable {e : Entry}

/-- A line is cut into the words it was written with. -/
theorem AccessShaped.words_line (h : e.AccessShaped) :
    words e.line.toList =
      e.timestamp.date.text.toList ::
        (e.timestamp.time.text.toList ++ e.timestamp.time.millis.toList) :: e.level.toList ::
        threadWord e.threadId :: (e.sourceIp.getD "-").toList :: (e.request.getD "-").toList ::
        ['-'] :: (toString e.statusCode.toInt).toList :: words e.message.toList := by
  -- Each word of the line has a space behind it, up to the message.
  have hsplit : e.line.toList = trimRight
      (e.timestamp.date.text.toList ++ ' ' ::
        ((e.timestamp.time.text.toList ++ e.timestamp.time.millis.toList) ++ ' ' ::
        (e.level.toList ++ ' ' :: (threadWord e.threadId ++ ' ' ::
        ((e.sourceIp.getD "-").toList ++ ' ' :: ((e.request.getD "-").toList ++ ' ' ::
        (['-'] ++ ' ' :: ((toString e.statusCode.toInt).toList ++ ' ' ::
        e.message.toList)))))))) := by
    have hmarks : " ".toList = [' '] ∧ " - ".toList = [' ', '-', ' '] ∧ "] ".toList = [']', ' '] ∧
        " [Thread-".toList = [' ', '[', 'T', 'h', 'r', 'e', 'a', 'd', '-'] ∧ "?".toList = ['?'] :=
      ⟨rfl, rfl, rfl, rfl, rfl⟩
    rw [line]
    cases e.threadId with
    | none =>
      simp only [String.toList_ofList, String.toList_append, Timestamp.toList_toMillis, hmarks,
        threadWord, threadNumber, List.append_assoc, List.cons_append, List.nil_append]
    | some n =>
      simp only [String.toList_ofList, String.toList_append, Timestamp.toList_toMillis, hmarks,
        threadWord, threadNumber, List.append_assoc, List.cons_append, List.nil_append]
  rw [hsplit, words_trimRight, words_isWord_append e.timestamp.date.isWord_text,
    words_isWord_append (Timestamp.isWord_clock e.timestamp.time.isFraction_millis),
    words_isWord_append h.level, words_isWord_append (isWord_threadWord _),
    words_isWord_append (isWord_getD h.sourceIp), words_isWord_append (isWord_getD h.request),
    words_isWord_append (by decide), words_isWord_append (isWord_toString _)]

/-! ## Reading the line -/

/-- The line of an entry of words is read as what it shows, with whole milliseconds. -/
theorem AccessShaped.ofAccessWords?_line (h : e.AccessShaped) :
    ofAccessWords? (words e.line.toList) = some e.wholeMillis.shown := by
  obtain ⟨ws, hws, hmessage⟩ := h.message
  have hunwords : String.ofList (unwords (words e.message.toList)) = e.message := by
    rw [hmessage, String.toList_ofList, words_unwords hws]
  have hstamp : Timestamp.ofText? (e.timestamp.date.text.toList ++ ' ' ::
      (e.timestamp.time.text.toList ++ e.timestamp.time.millis.toList)) =
        some e.timestamp.wholeMillis.shown := by
    rw [← Timestamp.toList_toMillis, Timestamp.ofText?_toMillis]
  have hrest : e.source = none ∧ e.user = none ∧ e.size = none := ⟨h.source, h.user, h.size⟩
  rw [h.words_line, ofAccessWords?, hstamp, threadOf?_threadWord, presentWord?_getD h.sourceIp,
    presentWord?_getD h.request, int32?_toString, hunwords, String.ofList_toList]
  simp only [wholeMillis, shown, hrest, Option.map_some, Option.getD_some]

theorem AccessShaped.looksLikeAccess_line (h : e.AccessShaped) :
    looksLikeAccess (words e.line.toList) = true := by
  have hlast : (threadWord e.threadId).getLast? = some ']' := by
    rw [threadWord, ← List.append_assoc, List.getLast?_concat]
  rw [h.words_line, looksLikeAccess, int32?_toString, hlast]
  rfl

theorem line_wholeMillis (e : Entry) : e.wholeMillis.line = e.line := by
  simp only [line, wholeMillis, Timestamp.toMillis_wholeMillis]

/-- **Written and read lines agree.** Every entry of an access line is made of words, and every
entry of words is read from its line, up to what is below milliseconds; so its line stays the same.
Where the shape of the line is found by itself, the same is read, unless the line could be read as a
combined one. A leap second is read as one if clocks show it, else as the second that follows. -/
theorem accessLines_agree :
    (∀ line e, ofAccessLine? line = some e → e.AccessShaped) ∧
      ∀ e : Entry, e.AccessShaped →
        ofAccessLine? e.line.toList = some e.wholeMillis.shown ∧
          e.wholeMillis.shown.line = e.line ∧
          ((∀ pre parts, ¬ CombinedParts.Splits e.line.toList pre parts) →
            LineShape.readAuto? e.line.toList = some e.wholeMillis.shown) ∧
          (e.wholeMillis.shown = e.wholeMillis ↔ e.timestamp.time.IsShown) := by
  refine ⟨fun line e => accessShaped_of_ofAccessLine?, fun e h => ?_⟩
  have hline : e.wholeMillis.shown.line = e.line := by
    rw [line_shown, line_wholeMillis]
  have hshown : e.wholeMillis.shown = e.wholeMillis ↔ e.timestamp.time.IsShown := by
    rw [shown_eq_self_iff, ← Timestamp.shown_eq_self_iff]
    exact Timestamp.shown_wholeMillis_eq_iff
  refine ⟨h.ofAccessWords?_line, hline, fun hnone => ?_, hshown⟩
  have hcombined : ofCombinedLine? e.line.toList = none := by
    rw [ofCombinedLine?, CombinedParts.find?_eq_none_iff.2 hnone, Option.bind_none]
  rw [LineShape.readAuto?, hcombined]
  dsimp only
  rw [if_pos h.looksLikeAccess_line, h.ofAccessWords?_line]

/-- An entry in a leap second of a year with a sign, without an address. -/
def leapEntry : Entry where
  timestamp :=
    { date :=
        { year := 12016, month := 12, day := 31, year_mem := by decide, month_mem := by decide,
          day_mem := by decide }
      time := .leapSecond 123456789 (by decide) }
  level := "Warning"
  message := "disk nearly full"
  request := some "/health"
  statusCode := -7
  threadId := some (-3)

theorem accessLines_agree_leapEntry :
    leapEntry.AccessShaped ∧
      leapEntry.line =
        "+12016-12-31 23:59:60.123 Warning [Thread--3] - /health - -7 disk nearly full" ∧
      ofAccessLine? leapEntry.line.toList = some leapEntry.wholeMillis ∧
      LineShape.readAuto? leapEntry.line.toList = some leapEntry.wholeMillis ∧
      leapEntry.wholeMillis.AccessShaped := by
  have hshaped : leapEntry.AccessShaped :=
    { level := by decide
      sourceIp := by decide
      request := by decide
      message := ⟨["disk".toList, "nearly".toList, "full".toList], by decide, by decide⟩
      source := rfl
      user := rfl
      size := rfl }
  have hline : leapEntry.line =
      "+12016-12-31 23:59:60.123 Warning [Thread--3] - /health - -7 disk nearly full" := by
    decide +kernel
  have hnone : ∀ pre parts, ¬ CombinedParts.Splits leapEntry.line.toList pre parts := by
    rw [← CombinedParts.find?_eq_none_iff, hline]
    decide +kernel
  obtain ⟨haccess, -, hauto, hshown⟩ := accessLines_agree.2 leapEntry hshaped
  have hsame : leapEntry.wholeMillis.shown = leapEntry.wholeMillis := hshown.2 (by decide)
  rw [hsame] at haccess hauto
  exact ⟨hshaped, hline, haccess, hauto hnone, accessLines_agree.1 _ _ haccess⟩

/-- An entry in a leap second that clocks hide. -/
def hiddenEntry : Entry where
  timestamp := .hiddenLeap
  level := "Info"

/-- The entry of the next second is read from its line, with all its milliseconds. -/
theorem accessLine_hiddenEntry :
    hiddenEntry.AccessShaped ∧
      hiddenEntry.line = "2023-08-15 10:00:01.500 Info [Thread-?] - - - -1" ∧
      ofAccessLine? hiddenEntry.line.toList ≠ some hiddenEntry.wholeMillis := by
  have hshaped : hiddenEntry.AccessShaped :=
    { level := by decide
      sourceIp := nofun
      request := nofun
      message := ⟨[], by decide, by decide⟩
      source := rfl
      user := rfl
      size := rfl }
  exact ⟨hshaped, by decide +kernel, by decide +kernel⟩

end LogDigest.Entry
