import LogDigest.Line.Batch
import LogDigest.Proofs.Line.Combined
import LogDigest.Proofs.Utf8

/-!
# Ends of lines

A line feed cuts the first line off a text (`Text.lines_append_newline`), and a carriage return at
the end of a line changes nothing for any shape of lines (`LineShape.read?_append_return`).

**Words.** A carriage return is a blank. So the shapes that are read by words do not see one at the
end.

**Combined lines.** No part of a combined line up to its size ends with a carriage return. So one at
the end of the line stands behind the size, where it is trimmed away with the other blanks.
-/

namespace LogDigest

open Text

/-! ## Lines of a text -/

namespace Text

theorem chomp_append_return (s : List Char) : chomp (s ++ ['\r']) = s := by
  rw [chomp, List.getLast?_concat, if_pos rfl, List.dropLast_concat]

/-- A line without its line feed is itself, up to one carriage return at its end. -/
theorem eq_chomp_or (s : List Char) : s = chomp s ∨ s = chomp s ++ ['\r'] := by
  rw [chomp]
  split
  · rename_i hlast
    obtain ⟨init, rfl⟩ := List.getLast?_eq_some_iff.1 hlast
    rw [List.dropLast_concat]
    exact Or.inr rfl
  · exact Or.inl rfl

/-- A line feed ends the first line. -/
theorem lines_append_newline {s : List Char} (h : '\n' ∉ s) (t : List Char) :
    lines (s ++ '\n' :: t) = chomp s :: lines t := by
  have hs : ∀ c ∈ s, (c == '\n') = false := fun c hc => by
    simpa using ne_of_mem_of_not_mem hc h
  obtain ⟨part, parts, hparts⟩ := List.exists_cons_of_ne_nil
    (List.splitOnP_ne_nil (fun c => c == '\n') t)
  rw [lines, lines, pieces_eq_splitOnP, pieces_eq_splitOnP, List.splitOnP_append_cons s t (by rfl),
    List.splitOnP_eq_singleton hs, hparts, List.singleton_append, linesOfPieces]

/-- A text without a line feed is one line, unless it is empty. -/
theorem lines_of_newline_not_mem {s : List Char} (h : '\n' ∉ s) (hne : s ≠ []) :
    lines s = [s] := by
  have hs : ∀ c ∈ s, (c == '\n') = false := fun c hc => by
    simpa using ne_of_mem_of_not_mem hc h
  rw [lines, pieces_eq_splitOnP, List.splitOnP_eq_singleton hs, linesOfPieces,
    if_neg (by simpa using hne)]

theorem newline_notMem_of_mem_lines {s line : List Char} (h : line ∈ lines s) : '\n' ∉ line := by
  have hchomp : ∀ {p : List Char}, '\n' ∉ p → '\n' ∉ chomp p := by
    intro p hp
    rw [chomp]
    split
    · exact fun hmem => hp ((List.dropLast_sublist p).mem hmem)
    · exact hp
  have hlines : ∀ ps : List (List Char), (∀ p ∈ ps, '\n' ∉ p) →
      ∀ line ∈ linesOfPieces ps, '\n' ∉ line := by
    intro ps hps
    induction ps with
    | nil => exact fun line hline => absurd hline List.not_mem_nil
    | cons p ps ih =>
      cases ps with
      | nil =>
        intro line hline
        rw [linesOfPieces] at hline
        split at hline
        · cases hline
        · exact hps line hline
      | cons q ps =>
        intro line hline
        rcases List.mem_cons.1 hline with rfl | hline
        · exact hchomp (hps p List.mem_cons_self)
        · exact ih (fun p hp => hps p (List.mem_cons_of_mem _ hp)) line hline
  refine hlines (pieces (· == '\n') s) (fun p hp hmem => ?_) line h
  rw [pieces_eq_splitOnP] at hp
  exact absurd (isSep_eq_false_of_mem_splitOnP hp '\n' hmem) (by decide)

end Text

/-! ## Carriage returns -/

namespace CombinedParts

/-- The parts with a carriage return behind them. -/
def withReturn (p : CombinedParts) : CombinedParts := { p with rest := p.rest ++ ['\r'] }

theorem text_withReturn (p : CombinedParts) : p.withReturn.text = p.text ++ ['\r'] := by
  simp only [text, withReturn, List.append_assoc, List.cons_append]

theorem wellFormed_withReturn {p : CombinedParts} :
    p.withReturn.WellFormed ↔ p.WellFormed := by
  have hrest : '\n' ∉ p.rest ++ ['\r'] ↔ '\n' ∉ p.rest := by simp
  exact ⟨fun h => { h with rest := hrest.1 h.rest }, fun h => { h with rest := hrest.2 h.rest }⟩

theorem sizeEnds_withReturn {p : CombinedParts} : p.withReturn.SizeEnds ↔ p.SizeEnds := by
  have hrest : EndsRun isDecimalDigit (p.rest ++ ['\r']) ↔ EndsRun isDecimalDigit p.rest := by
    cases p.rest with
    | nil => exact ⟨fun _ => endsRun_nil, fun _ => endsRun_cons (by decide) []⟩
    | cons c rest => exact Iff.rfl
  exact imp_congr_right fun _ => hrest

theorem WellFormed.size_ne_nil {p : CombinedParts} (h : p.WellFormed) : p.size ≠ [] := by
  rcases h.size with hsize | hsize
  · exact hsize.1
  · rw [hsize]
    exact List.cons_ne_nil _ _

/-- The size does not end with a carriage return, so what ends with one is behind the size. -/
theorem WellFormed.exists_withReturn {q : CombinedParts} (h : q.WellFormed) {s : List Char}
    (htext : s ++ ['\r'] = q.text) : ∃ p : CombinedParts, p.withReturn = q ∧ s = p.text := by
  have hsize : '\r' ∉ q.size := by
    rcases h.size with hsize | hsize
    · exact fun hmem => absurd (hsize.2 _ hmem) (by decide)
    · rw [hsize]
      decide
  have hfront : ∃ front, ∀ rest, { q with rest := rest }.text = front ++ (q.size ++ rest) :=
    ⟨q.ip ++ ' ' :: '-' :: ' ' :: (q.user ++ ' ' :: '[' :: (q.timestamp ++ ']' :: ' ' :: '"' ::
      (q.request ++ '"' :: ' ' :: (q.status ++ [' '])))), fun rest => by simp [text]⟩
  obtain ⟨front, hfront⟩ := hfront
  rw [hfront q.rest] at htext
  rcases List.eq_nil_or_concat q.rest with hrest | ⟨rest, c, hrest⟩
  · -- The last character is one of the size.
    obtain ⟨size, c, hc⟩ := (List.eq_nil_or_concat q.size).resolve_left h.size_ne_nil
    rw [hrest, hc, List.append_nil, List.concat_eq_append, ← List.append_assoc] at htext
    cases List.append_inj_right' htext rfl
    rw [hc] at hsize
    simp at hsize
  · rw [hrest, List.concat_eq_append, ← List.append_assoc, ← List.append_assoc] at htext
    cases List.append_inj_right' htext rfl
    refine ⟨{ q with rest := rest }, ?_, ?_⟩
    · rw [withReturn, ← List.concat_eq_append, ← hrest]
    · rw [hfront rest, ← List.append_assoc, List.append_cancel_right htext]

/-- What can be read is the same, with a carriage return behind it. -/
theorem readHere?_append_return (s : List Char) :
    readHere? (s ++ ['\r']) = (readHere? s).map withReturn := by
  refine Option.ext fun q => ?_
  rw [Option.map_eq_some_iff, readHere?_eq_some_iff]
  constructor
  · rintro ⟨hwf, htext, hend⟩
    obtain ⟨p, rfl, hs⟩ := hwf.exists_withReturn htext
    exact ⟨p, readHere?_eq_some_iff.2
      ⟨wellFormed_withReturn.1 hwf, hs, sizeEnds_withReturn.1 hend⟩, rfl⟩
  · rintro ⟨p, hp, rfl⟩
    obtain ⟨hwf, rfl, hend⟩ := readHere?_eq_some_iff.1 hp
    exact ⟨wellFormed_withReturn.2 hwf, p.text_withReturn.symm, sizeEnds_withReturn.2 hend⟩

/-- The first place from which can be read is the same. -/
theorem find?_append_return (s : List Char) :
    find? (s ++ ['\r']) = (find? s).map withReturn := by
  induction s with
  | nil => decide
  | cons c s ih =>
    rw [List.cons_append, find?, find?, ← List.cons_append, readHere?_append_return]
    cases readHere? (c :: s) with
    | some p => rfl
    | none => exact ih

theorem entry?_withReturn (p : CombinedParts) : p.withReturn.entry? = p.entry? := by
  have htrim : trim (p.rest ++ ['\r']) = trim p.rest := trim_append_blank (by decide) _
  rw [CombinedParts.entry?, CombinedParts.entry?, withReturn]
  dsimp only
  rw [htrim]

end CombinedParts

namespace Entry

theorem ofPlainLine?_append_return (s : List Char) :
    ofPlainLine? (s ++ ['\r']) = ofPlainLine? s := by
  rw [ofPlainLine?, ofPlainLine?, nonemptyPieces_append_lastSep (by decide)]

theorem ofCombinedLine?_append_return (s : List Char) :
    ofCombinedLine? (s ++ ['\r']) = ofCombinedLine? s := by
  rw [ofCombinedLine?, ofCombinedLine?, CombinedParts.find?_append_return]
  cases CombinedParts.find? s with
  | none => rfl
  | some p => exact p.entry?_withReturn

end Entry

/-- A carriage return at the end of a line changes nothing. -/
theorem LineShape.read?_append_return (shape : LineShape) (s : List Char) :
    shape.read? (s ++ ['\r']) = shape.read? s := by
  have hwords : words (s ++ ['\r']) = words s := words_append_lastBlank (by decide) s
  cases shape with
  | plain => exact Entry.ofPlainLine?_append_return s
  | access => rw [read?, Entry.ofAccessLine?, Entry.ofAccessLine?, hwords]
  | combined => exact Entry.ofCombinedLine?_append_return s
  | auto =>
    rw [read?, readAuto?, readAuto?, Entry.ofCombinedLine?_append_return,
      Entry.ofPlainLine?_append_return, hwords]

theorem LineShape.read?_chomp (shape : LineShape) (s : List Char) :
    shape.read? (chomp s) = shape.read? s := by
  rcases eq_chomp_or s with h | h
  · rw [← h]
  · rw [← shape.read?_append_return (chomp s), ← h]

/-! ## Entries of a text -/

namespace Batch

variable (read : List Char → Option Entry) (text : List Char)

theorem map_entry_ofText : (ofText read text).map (·.entry) = (Text.lines text).map read := by
  rw [ofText, List.map_map]
  rfl

theorem entries_ofText : (ofText read text).entries = (Text.lines text).filterMap read := by
  rw [entries, ofText, List.filterMap_map]
  rfl

theorem stats_ofText :
    (ofText read text).stats =
      { lines := (Text.lines text).length
        parsed := ((Text.lines text).filterMap read).length
        discarded := (Text.lines text).length - ((Text.lines text).filterMap read).length } := by
  rw [stats, entries_ofText, ofText, List.length_map]

end Batch

end LogDigest
