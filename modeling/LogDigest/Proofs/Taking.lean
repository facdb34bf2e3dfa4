import LogDigest.Proofs.Identity
import LogDigest.Proofs.Run.Lines

/-!
# Only kept records take identities

The records of a text have consecutive identities in the order of their lines, and the counter
moves on by as many as there are records: a line that is discarded moves it no more than a document
that is refused (`Gathered.only_kept_take_identities`).

**Attempts** (`Attempt.Takes`). An attempt either makes the record of its entry or fails, and when
it fails the counter is where it was. One rule for each way to make an attempt: what is needed comes
before the record is made, and an attempt that follows a failed one finds the counter untouched.

**Lines** (`Gathered.Covers`). What was gathered from some lines are the records of their entries,
made one after the other, and their counts. One more line keeps this.
-/

namespace LogDigest

open Text

/-! ## Numbers -/

namespace IdCounter

theorem mintAll_concat (c : IdCounter) (es : List Entry) (e : Entry) :
    c.mintAll (es ++ [e]) = ((c.mintAll es).1 ++ [((c.mintAll es).2.mint e).1],
      ((c.mintAll es).2.mint e).2) := by
  induction es generalizing c with
  | nil => rfl
  | cons f es ih =>
    have hrest := ih (c.mint f).2
    rw [List.cons_append, mintAll, mintAll]
    dsimp only
    rw [hrest]
    rfl

theorem map_toEntry_mintAll (c : IdCounter) (es : List Entry) :
    (c.mintAll es).1.map (·.toEntry) = es := by
  induction es generalizing c with
  | nil => rfl
  | cons e es ih => exact congrArg (e :: ·) (ih (c.mint e).2)

variable {c : IdCounter} {es : List Entry}

/-- The counter moves on by one for every record. -/
theorem toNat_next_mintAll (h : c.next.toNat + es.length < 2 ^ 64) :
    (c.mintAll es).2.next.toNat = c.next.toNat + es.length := by
  induction es using List.reverseRecOn with
  | nil => rfl
  | append_singleton es e ih =>
    rw [List.length_append, List.length_singleton] at h ⊢
    have hnext := ih (by omega)
    have hmint : (c.mintAll (es ++ [e])).2 = (c.mintAll es).2.fresh.2 := by
      rw [mintAll_concat]
      rfl
    rw [hmint, toNat_next_fresh (by omega), hnext, Nat.add_assoc]

/-- The records are numbered from where the counter stood. -/
theorem toNat_id_mintAll (h : c.next.toNat + es.length < 2 ^ 64) {k : Nat} {r : Record}
    (hr : (c.mintAll es).1[k]? = some r) : r.id.value.toNat = c.next.toNat + k := by
  induction es using List.reverseRecOn with
  | nil => exact absurd hr (by simp [mintAll])
  | append_singleton es e ih =>
    rw [List.length_append, List.length_singleton] at h
    rw [mintAll_concat, List.getElem?_append] at hr
    split at hr
    · exact ih (by omega) hr
    · rename_i hk
      rw [length_mintAll] at hk hr
      have hlast : k - es.length = 0 := by
        have hlt := (List.getElem?_eq_some_iff.1 hr).1
        rw [List.length_singleton] at hlt
        omega
      rw [hlast, List.getElem?_cons_zero, Option.some.injEq] at hr
      subst hr
      have hid : ((c.mintAll es).2.mint e).1.id.value.toNat = (c.mintAll es).2.next.toNat := rfl
      rw [hid, toNat_next_mintAll (by omega)]
      omega

end IdCounter

/-! ## Lines -/

namespace Gathered

/-- What was gathered from these lines, and the counter behind them: the records of their entries,
one after the other, and their counts. -/
structure Covers (g : Gathered) (c' : IdCounter) (read : List Char → Option Entry) (c : IdCounter)
    (done : List (List Char)) : Prop where
  records : g.records = (c.mintAll (done.filterMap read)).1
  counter : c' = (c.mintAll (done.filterMap read)).2
  stats : g.stats =
    { lines := done.length, parsed := g.records.length,
      discarded := done.length - g.records.length }

variable {attempt : List Char → Attempt Record} {read : List Char → Option Entry} {g : Gathered}
  {c d : IdCounter} {done : List (List Char)}

theorem readLine_eq (attempt : List Char → Attempt Record) (g : Gathered) (line : List Char)
    (d : IdCounter) : (readLine attempt g line d).run =
      match (attempt line).outcome d with
      | (some r, d') =>
        ({ records := g.records ++ [r], stats := { g.stats with
            lines := g.stats.lines + 1, parsed := g.stats.parsed + 1 } }, d')
      | (none, d') =>
        ({ g with stats := { g.stats with
            lines := g.stats.lines + 1, discarded := g.stats.discarded + 1 } }, d') := by
  simp only [readLine, Attempt.outcome, bind, StateT.bind]
  obtain ⟨r, d'⟩ := (attempt line).run d
  cases r <;> rfl

theorem Covers.length_le (h : Covers g d read c done) : g.records.length ≤ done.length := by
  rw [h.records, IdCounter.length_mintAll]
  exact List.length_filterMap_le read done

theorem Covers.readLine (hattempt : ∀ line, (attempt line).Takes (read line))
    (h : Covers g d read c done) (line : List Char) :
    Covers (readLine attempt g line d).run.1 (readLine attempt g line d).run.2 read c
      (done ++ [line]) := by
  have hle := h.length_le
  rw [readLine_eq, hattempt line d]
  cases hread : read line with
  | none =>
    have hentries : (done ++ [line]).filterMap read = done.filterMap read := by
      rw [List.filterMap_append, List.filterMap_cons_none hread, List.filterMap_nil,
        List.append_nil]
    refine ⟨?_, ?_, ?_⟩
    · rw [hentries]
      exact h.records
    · rw [hentries]
      exact h.counter
    · simp only [h.stats, List.length_append, List.length_singleton, TextStats.mk.injEq, true_and]
      omega
  | some e =>
    have hentries : (done ++ [line]).filterMap read = done.filterMap read ++ [e] := by
      rw [List.filterMap_append, List.filterMap_cons_some hread, List.filterMap_nil]
    refine ⟨?_, ?_, ?_⟩
    · rw [hentries, IdCounter.mintAll_concat, ← h.records, ← h.counter]
    · rw [hentries, IdCounter.mintAll_concat, ← h.counter]
    · simp only [h.stats, List.length_append, List.length_singleton, TextStats.mk.injEq, true_and]
      omega

theorem Covers.foldlM (hattempt : ∀ line, (attempt line).Takes (read line))
    (h : Covers g d read c done) (todo : List (List Char)) :
    Covers (todo.foldlM (Gathered.readLine attempt) g d).run.1
      (todo.foldlM (Gathered.readLine attempt) g d).run.2 read c (done ++ todo) := by
  induction todo generalizing g d done with
  | nil =>
    rw [List.append_nil]
    exact h
  | cons line todo ih =>
    have hrest := ih (h.readLine hattempt line)
    rw [List.append_assoc, List.singleton_append] at hrest
    exact hrest

/-- A text is read to records and counts as its lines are read, with one identity a record. -/
theorem covers_ofText (shape : LineShape) (text : List Char) (c : IdCounter) :
    Covers (ofText (Attempt.ofLine shape) text c).1 (ofText (Attempt.ofLine shape) text c).2
      shape.read? c (lines text) := by
  have hnothing : Covers {} c shape.read? c [] := ⟨rfl, rfl, rfl⟩
  exact hnothing.foldlM (Attempt.takes_ofLine shape) (lines text)

end Gathered

/-! ## Documents -/

namespace DocumentAttempt

/-- A document is read as by itself; if it is refused, the counter stays. -/
theorem outcome_ofText (keep : Bool) (text : String) (c : IdCounter) :
    (ofText keep text).outcome c =
      match if keep then Record.ofJsonKeepingId text c else Record.ofJson text c with
      | .ok (r, c') => (.ok r, c')
      | .error e => (.error e, c) := by
  unfold ofText Record.ofJsonKeepingId Record.ofJson
  cases Record.readDocument text with
  | error e => cases keep <;> rfl
  | ok read =>
    obtain ⟨e, named⟩ := read
    cases named <;> cases keep <;> rfl

theorem counter_of_refused {keep : Bool} {text : String} {c : IdCounter} {e : DocumentError}
    (h : ((ofText keep text).outcome c).1 = .error e) : ((ofText keep text).outcome c).2 = c := by
  rw [outcome_ofText] at h ⊢
  cases hread : if keep then Record.ofJsonKeepingId text c else Record.ofJson text c with
  | error e => rfl
  | ok read =>
    rw [hread] at h
    cases h

end DocumentAttempt

/-! ## Identities -/

namespace Attempt

/-- A failed attempt leaves the counter where it was. -/
theorem Takes.counter_of_failed {x : Attempt Record} {e : Option Entry} (h : x.Takes e)
    {c : IdCounter} (hfailed : (x.outcome c).1 = none) : (x.outcome c).2 = c := by
  rw [h c] at hfailed ⊢
  cases e with
  | none => rfl
  | some e => cases hfailed

theorem outcome_auto_of_failed {line : List Char} {c : IdCounter}
    (hcombined : ((combined line).outcome c).1 = none)
    (haccess : ((likelyAccess line).outcome c).1 = none) :
    (auto line).outcome c = (plain line).outcome c := by
  have hfirst : (combined line).outcome c = (none, c) :=
    Prod.ext hcombined ((takes_combined line).counter_of_failed hcombined)
  have hsecond : (likelyAccess line).outcome c = (none, c) :=
    Prod.ext haccess ((takes_likelyAccess line).counter_of_failed haccess)
  rw [auto, outcome_orElse, hfirst]
  dsimp only
  rw [outcome_orElse, hsecond]

end Attempt

namespace Gathered

/-- What was gathered from a text that was read from one counter to another: the records of its
entries in the order of their lines, with one number after the other, and the counts. A run that
reads the lines keeps the same records and leaves the same counter. -/
structure Numbered (g : Gathered) (c' : IdCounter) (shape : LineShape) (text : List Char)
    (c : IdCounter) : Prop where
  entries : g.records.map (·.toEntry) = (lines text).filterMap shape.read?
  stats : g.stats = (Batch.ofText shape.read? text).stats
  id : ∀ k r, g.records[k]? = some r → r.id.value.toNat = c.next.toNat + k
  counter : c'.next.toNat = c.next.toNat + g.records.length
  ascending : g.records.Pairwise fun r s => r.id.value < s.id.value
  run : ∀ {σ : Type} (stages : Stages σ) (r : Run σ), r.ids = c →
    Run.Returns (Run.readLines stages shape.parser 1 [] (lines text)) r g.records fun r' =>
      r'.ids = c'

theorem Covers.numbered {g : Gathered} {c c' : IdCounter} {shape : LineShape} {text : List Char}
    (h : Covers g c' shape.read? c (lines text))
    (hroom : c.next.toNat + (lines text).length ≤ 2 ^ 64 - 1) : Numbered g c' shape text c := by
  have hfew : c.next.toNat + ((lines text).filterMap shape.read?).length < 2 ^ 64 := by
    have hle := List.length_filterMap_le shape.read? (lines text)
    omega
  have hid : ∀ k r, g.records[k]? = some r → r.id.value.toNat = c.next.toNat + k := by
    intro k r hr
    rw [h.records] at hr
    exact IdCounter.toNat_id_mintAll hfew hr
  refine ⟨?_, ?_, hid, ?_, ?_, fun stages r hr => ?_⟩
  · rw [h.records, IdCounter.map_toEntry_mintAll]
  · rw [h.stats, h.records, IdCounter.length_mintAll, Batch.stats_ofText]
  · rw [h.counter, h.records, IdCounter.length_mintAll, IdCounter.toNat_next_mintAll hfew]
  · rw [List.pairwise_iff_getElem]
    intro i j hi hj hij
    rw [UInt64.lt_iff_toNat_lt, hid i _ (List.getElem?_eq_getElem hi),
      hid j _ (List.getElem?_eq_getElem hj)]
    omega
  · subst hr
    rw [h.records]
    have hread : Run.Returns (Run.readLines stages shape.parser 1 [] (lines text)) r _ _ :=
      Run.returns_readLines shape (lines text) 1 []
    obtain ⟨r', hreturns, events, hr'⟩ := hread
    exact ⟨r', hreturns, by rw [hr', h.counter]⟩

/-- **Only kept records take identities.** If a counter has room for the lines of a text, the
records that are made of them have the numbers from there on in the order of the lines, and the
counter moves on by as many as there are records. A line that is discarded, whatever attempts were
made at it, leaves the counter where it was: after a failed attempt at its combined shape and one at
its access shape it is read as a plain line from the same counter. And so does a document that is
refused. -/
theorem only_kept_take_identities :
    (∀ (shape : LineShape) (text : List Char) (c : IdCounter),
      c.next.toNat + (lines text).length ≤ 2 ^ 64 - 1 →
        Numbered (ofText (Attempt.ofLine shape) text c).1 (ofText (Attempt.ofLine shape) text c).2
          shape text c) ∧
    (∀ shape line c, ((Attempt.ofLine shape line).outcome c).1 = none →
      ((Attempt.ofLine shape line).outcome c).2 = c) ∧
    (∀ line c, ((Attempt.combined line).outcome c).1 = none →
      ((Attempt.likelyAccess line).outcome c).1 = none →
        (Attempt.auto line).outcome c = (Attempt.plain line).outcome c) ∧
    ∀ keep text c,
      (DocumentAttempt.ofText keep text).outcome c =
        (match if keep then Record.ofJsonKeepingId text c else Record.ofJson text c with
          | .ok (r, c') => (.ok r, c')
          | .error e => (.error e, c)) ∧
      ∀ e, ((DocumentAttempt.ofText keep text).outcome c).1 = .error e →
        ((DocumentAttempt.ofText keep text).outcome c).2 = c := by
  refine ⟨fun shape text c => ?_, fun shape line c => ?_, fun line c => ?_, fun keep text c => ?_⟩
  · exact (covers_ofText shape text c).numbered
  · exact (Attempt.takes_ofLine shape line).counter_of_failed
  · exact Attempt.outcome_auto_of_failed
  · exact ⟨DocumentAttempt.outcome_ofText keep text c, fun e =>
      DocumentAttempt.counter_of_refused⟩

/-- Two lines that are refused as combined and as access lines, one of them as a plain line as well,
are read with the last numbers there are. The second line takes the first of them. -/
theorem only_kept_take_identities_refused :
    let refused := "a b c [d] e f - 7 1.2.3.4 - - [x] \"y\" 200 5 Info".toList
    let kept := "2024-01-01 10:00:00.x Info [d] e f - 7 1.2.3.4 - - [x] \"y\" 200 5 Info".toList
    let text := refused ++ '\n' :: kept
    let c : IdCounter := ⟨18446744073709551613⟩
    let read := ofText (Attempt.ofLine .auto) text c
    (∀ line ∈ [refused, kept],
      (CombinedParts.find? line).isSome = true ∧ Entry.ofCombinedLine? line = none ∧
        Entry.looksLikeAccess (words line) = true ∧ Entry.ofAccessWords? (words line) = none) ∧
    c.next.toNat + (lines text).length ≤ 2 ^ 64 - 1 ∧
    Numbered read.1 read.2 .auto text c ∧ read.1.records.length = 1 ∧
    (Attempt.auto refused).outcome c = (none, c) ∧
    (Attempt.auto kept).outcome c = (Attempt.plain kept).outcome c ∧
    ((DocumentAttempt.ofText true "[]").outcome c).2 = c := by
  intro refused kept text c read
  have hroom : c.next.toNat + (lines text).length ≤ 2 ^ 64 - 1 := by decide +kernel
  have hattempts : ∀ line ∈ [refused, kept],
      (CombinedParts.find? line).isSome = true ∧ Entry.ofCombinedLine? line = none ∧
        Entry.looksLikeAccess (words line) = true ∧ Entry.ofAccessWords? (words line) = none := by
    decide +kernel
  have hfailed : ((Attempt.auto refused).outcome c).1 = none := by decide +kernel
  obtain ⟨-, hcombined, hlooks, haccess⟩ := hattempts kept (by simp)
  have hcombined : ((Attempt.combined kept).outcome c).1 = none := by
    rw [Attempt.takes_combined kept c, hcombined]
  have haccess : ((Attempt.likelyAccess kept).outcome c).1 = none := by
    rw [Attempt.takes_likelyAccess kept c, hlooks, haccess]
    rfl
  have hrefused : ((DocumentAttempt.ofText true "[]").outcome c).1 =
      .error (.mismatch (.tooShort 1)) := by decide +kernel
  obtain ⟨hnumbered, hcounter, hauto, hdocument⟩ := only_kept_take_identities
  exact ⟨hattempts, hroom, hnumbered .auto text c hroom, by decide +kernel,
    Prod.ext hfailed (hcounter .auto refused c hfailed), hauto kept c hcombined haccess,
    (hdocument true "[]" c).2 _ hrefused⟩

end Gathered

end LogDigest
