import LogDigest.Proofs.Words
import LogDigest.Run.Stages

/-!
# Attempts at lines

What the parsers of lines do to the counter of identities. A line that is an entry becomes a record
with the next identity, and any other line leaves the counter where it was
(`LineShape.parser_parse`).

**Attempts** (`Attempt.Takes`). An attempt either makes the record of its entry or fails, and when
it fails the counter is where it was. One rule for each way to make an attempt: what is needed comes
before the record is made, and an attempt that follows a failed one finds the counter untouched.
-/

namespace LogDigest

open Text

namespace Attempt

variable {α : Type} {x y : Attempt Record} {e f : Option Entry}

/-- The attempt makes the record of this entry, or fails and leaves the counter where it was. -/
def Takes (x : Attempt Record) (e : Option Entry) : Prop :=
  ∀ c, x.outcome c = match e with
    | some e => (some (c.mint e).1, (c.mint e).2)
    | none => (none, c)

theorem takes_build (e : Entry) : Takes (build e) (some e) := fun _ => rfl

theorem takes_failure : Takes failure none := fun _ => rfl

theorem takes_need_bind {a : Option α} {f : α → Attempt Record} {g : α → Option Entry}
    (h : ∀ b, Takes (f b) (g b)) : Takes (need a >>= f) (a.bind g) := by
  intro c
  cases a with
  | none => rfl
  | some b => exact h b c

theorem takes_need_build (a : Option α) (g : α → Entry) :
    Takes (need a >>= fun b => build (g b)) (a.map g) := by
  rw [Option.map_eq_bind]
  exact takes_need_bind fun b => takes_build (g b)

theorem outcome_orElse (x y : Attempt Record) (c : IdCounter) :
    (x <|> y).outcome c = match x.outcome c with
      | (some r, c') => (some r, c')
      | (none, c') => y.outcome c' := by
  simp only [outcome, OptionT.run_orElse, Option.elimM, bind, StateT.bind]
  obtain ⟨r, c'⟩ := x.run c
  cases r <;> rfl

theorem Takes.orElse (hx : Takes x e) (hy : Takes y f) : Takes (x <|> y) (e.or f) := by
  intro c
  rw [outcome_orElse, hx c]
  cases e with
  | none => exact hy c
  | some e => rfl

theorem takes_plain (line : List Char) : Takes (plain line) (Entry.ofPlainLine? line) := by
  rw [plain, Entry.ofPlainLine?]
  split
  · rename_i hblank
    have hparts : nonemptyPieces (fun c => isBlank c || c == '.') line = [] :=
      nonemptyPieces_eq_nil fun c hc => by
        rw [isBlank_of_trim_eq_nil (List.isEmpty_iff.1 hblank) c hc, Bool.true_or]
    rw [hparts]
    exact takes_failure
  · generalize nonemptyPieces (fun c => isBlank c || c == '.') line = ws
    rcases ws with _ | ⟨date, _ | ⟨time, _ | ⟨level, _ | ⟨word, words⟩⟩⟩⟩
    case cons.cons.cons.cons => exact takes_need_build _ _
    all_goals exact takes_failure

theorem takes_accessWords :
    ∀ ws : List (List Char), Takes (accessWords ws) (Entry.ofAccessWords? ws)
  | _ :: _ :: _ :: _ :: _ :: _ :: _ :: _ :: _ => takes_need_build _ _
  | [] | [_] | [_, _] | [_, _, _] | [_, _, _, _] | [_, _, _, _, _] | [_, _, _, _, _, _]
  | [_, _, _, _, _, _, _] => takes_failure

theorem takes_access (line : List Char) : Takes (access line) (Entry.ofAccessLine? line) :=
  takes_accessWords (words line)

theorem takes_combined (line : List Char) : Takes (combined line) (Entry.ofCombinedLine? line) :=
  takes_need_bind fun _ => takes_need_build _ _

theorem takes_likelyAccess (line : List Char) :
    Takes (likelyAccess line)
      (if Entry.looksLikeAccess (words line) then Entry.ofAccessWords? (words line) else none) := by
  rw [likelyAccess]
  split
  · exact takes_accessWords (words line)
  · exact takes_failure

/-- The attempts at a line go on from the counter at which the line was begun. -/
theorem takes_auto (line : List Char) : Takes (auto line) (LineShape.readAuto? line) := by
  have hread : LineShape.readAuto? line = (Entry.ofCombinedLine? line).or
      ((if Entry.looksLikeAccess (words line) then Entry.ofAccessWords? (words line) else none).or
        (Entry.ofPlainLine? line)) := by
    rw [LineShape.readAuto?]
    dsimp only
    generalize (if Entry.looksLikeAccess (words line) then Entry.ofAccessWords? (words line)
      else none) = access
    cases Entry.ofCombinedLine? line <;> cases access <;> rfl
  rw [hread]
  exact (takes_combined line).orElse ((takes_likelyAccess line).orElse (takes_plain line))

theorem takes_ofLine (shape : LineShape) (line : List Char) :
    Takes (ofLine shape line) (shape.read? line) := by
  cases shape with
  | plain => exact takes_plain line
  | access => exact takes_access line
  | combined => exact takes_combined line
  | auto => exact takes_auto line

end Attempt

/-! ## Parsers -/

/-- The parser gives every record the next identity, and takes no other. -/
def LineParser.OneByOne (parser : LineParser) : Prop :=
  ∀ line ids,
    match (parser.parse line ids).1.result with
    | .returned (some r) => r.id = ids.fresh.1 ∧ (parser.parse line ids).2 = ids.fresh.2
    | _ => (parser.parse line ids).2 = ids

namespace LineShape

/-- The parser of a shape makes the record of the entry on a line, if there is one. -/
theorem parser_parse (shape : LineShape) (line : List Char) (ids : IdCounter) :
    shape.parser.parse line ids = match shape.read? line with
      | some e => (.pure (some (ids.mint e).1), (ids.mint e).2)
      | none => (.pure none, ids) := by
  simp only [parser, Attempt.takes_ofLine shape line ids]
  cases shape.read? line <;> rfl

theorem parser_oneByOne (shape : LineShape) : shape.parser.OneByOne := by
  intro line ids
  rw [parser_parse]
  cases shape.read? line with
  | none => rfl
  | some e => exact ⟨rfl, rfl⟩

end LineShape

/-- A parser that is put in place of those of the shapes gives every record the next identity as
well. -/
def Stages.OneByOne {σ : Type} (stages : Stages σ) : Prop :=
  ∀ parser, stages.parser = some parser → parser.OneByOne

theorem Stages.OneByOne.parser_getD {σ : Type} {stages : Stages σ} (h : stages.OneByOne)
    (shape : LineShape) : (stages.parser.getD shape.parser).OneByOne := by
  cases hparser : stages.parser with
  | none => exact shape.parser_oneByOne
  | some parser => exact h parser hparser

end LogDigest
