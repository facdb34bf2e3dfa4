import LogDigest.Line.Shape
import LogDigest.Proofs.Line.Combined

/-!
# Levels stand on their lines

Whatever the shape of a line is, the level of its entry is a part of the line
(`LineShape.level_isInfix`): a word of a plain or an access line, and what is behind the size of a
combined line without its outer blanks.
-/

namespace LogDigest

open Text

namespace Entry

variable {line : List Char} {e : Entry}

theorem level_isInfix_of_ofPlainLine? (h : ofPlainLine? line = some e) :
    e.level.toList <:+: line := by
  rw [ofPlainLine?] at h
  split at h
  · rename_i date time level word ws hwords
    obtain ⟨t, -, rfl⟩ := Option.map_eq_some_iff.1 h
    rw [String.toList_ofList]
    exact isInfix_of_mem_nonemptyPieces (by rw [hwords]; simp)
  · cases h

theorem level_mem_of_ofAccessWords? {ws : List (List Char)} (h : ofAccessWords? ws = some e) :
    e.level.toList ∈ ws := by
  rw [ofAccessWords?.eq_def] at h
  split at h
  · obtain ⟨t, -, rfl⟩ := Option.map_eq_some_iff.1 h
    rw [String.toList_ofList]
    simp
  · cases h

theorem level_isInfix_of_ofAccessWords? (h : ofAccessWords? (words line) = some e) :
    e.level.toList <:+: line :=
  isInfix_of_mem_nonemptyPieces (level_mem_of_ofAccessWords? h)

theorem level_isInfix_of_ofCombinedLine? (h : ofCombinedLine? line = some e) :
    e.level.toList <:+: line := by
  obtain ⟨p, hfind, hentry⟩ := Option.bind_eq_some_iff.1 h
  obtain ⟨pre, s, rfl, hhere, -⟩ := CombinedParts.find?_eq_some_iff_readHere?.1 hfind
  obtain ⟨-, rfl, -⟩ := CombinedParts.readHere?_eq_some_iff.1 hhere
  obtain ⟨t, -, rfl⟩ := Option.map_eq_some_iff.1 hentry
  have hrest : p.rest <:+ p.text := ⟨p.ip ++ ' ' :: '-' :: ' ' :: (p.user ++ ' ' :: '[' ::
    (p.timestamp ++ ']' :: ' ' :: '"' :: (p.request ++ '"' :: ' ' :: (p.status ++ ' ' ::
      p.size)))), by simp [CombinedParts.text]⟩
  rw [String.toList_ofList]
  exact (isInfix_trim p.rest).trans (hrest.trans (List.suffix_append pre p.text)).isInfix

end Entry

/-- **The level of an entry is a part of its line.** -/
theorem LineShape.level_isInfix {shape : LineShape} {line : List Char} {e : Entry}
    (h : shape.read? line = some e) : e.level.toList <:+: line := by
  cases shape with
  | plain => exact Entry.level_isInfix_of_ofPlainLine? h
  | access => exact Entry.level_isInfix_of_ofAccessWords? h
  | combined => exact Entry.level_isInfix_of_ofCombinedLine? h
  | auto =>
    rw [read?, readAuto?] at h
    split at h
    · rename_i hcombined
      cases h
      exact Entry.level_isInfix_of_ofCombinedLine? hcombined
    · dsimp only at h
      split at h
      · rename_i haccess
        cases h
        split at haccess
        · exact Entry.level_isInfix_of_ofAccessWords? haccess
        · cases haccess
      · exact Entry.level_isInfix_of_ofPlainLine? h

end LogDigest
