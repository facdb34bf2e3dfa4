import LogDigest.Proofs.Run.Course
import LogDigest.Proofs.Run.Schedules

/-!
# Requests to cancel a run

Who may ask to cancel a run, and where its flag shows that somebody did. Beside those who hold a run
from outside, whatever is put into it may ask: what reads the log, the parser on every line, what
selects the records, and every unit of work.

**Nothing else raises the flag, and nothing lowers it.** Up to its first look a run keeps the flag
(`Run.keeps_flag_untilFirstLook`). From there to the second look it is raised by the reading of the
log (`Run.flag_untilSecondLook`), and from there to the work by the parser and by the selection
(`Run.flag_untilWork`).

**Units look once.** A unit that has not looked when somebody asks looks later, and then it sees the
flag up (`Pool.looked_up_of_asked`), since every unit looks in the end and the flag stays up.
-/

namespace LogDigest

/-- Whether the parser asks to cancel on one of these lines, read with this counter. -/
def LineParser.asks (parser : LineParser) : IdCounter → List (List Char) → Bool
  | _, [] => false
  | ids, line :: lines =>
    let (call, ids) := parser.parse line ids
    call.cancels || parser.asks ids lines

/-! ## Units of work -/

namespace Pool

variable {units : List UnitCall} {flag : Bool}

theorem trace_append (p : Pool) (before after : Schedule) :
    trace units p (before ++ after) =
      trace units p before ++ trace units (before.foldl (step units) p) after := by
  induction before generalizing p with
  | nil => rfl
  | cons s before ih => simp only [List.cons_append, trace, ih, List.foldl_cons, List.append_assoc]

/-- Behind a raised flag no unit sees it down. -/
theorem looked_down_notMem_of_flag {p : Pool} (h : p.flag = true) (steps : Schedule) (u : Nat) :
    .looked u false ∉ trace units p steps := by
  induction steps generalizing p with
  | nil => exact List.not_mem_nil
  | cons s steps ih =>
    have hdoes : Does units p s (p.event? units s) (p.step units s) := step_does p s
    have hstill : (p.step units s).flag = true := hdoes.flag_iff.2 (.inl h)
    rw [trace, List.mem_append, Option.mem_toList]
    rintro (hfirst | hrest)
    · rw [hfirst] at hdoes
      generalize p.step units s = p' at hdoes
      cases hdoes with
      | start lt new down =>
        rw [h] at down
        cases down
    · exact ih hstill hrest

/-- Somebody has asked to cancel when these steps are over: before the first of them, from outside,
or in a unit that ran. -/
def AskedIn (units : List UnitCall) (flag : Bool) (steps : Schedule) : Prop :=
  flag = true ∨ .raise ∈ steps ∨
    ∃ u c, .ran u ∈ trace units { flag } steps ∧ units[u]? = some c ∧ c.cancels = true

/-- A unit that has not looked when somebody has asked to cancel sees the flag up. -/
theorem looked_up_of_asked {schedule before after : Schedule}
    (hsteps : schedule ++ Schedule.inOrder units.length = before ++ after)
    (hasked : AskedIn units flag before) {u : Nat} (hu : u < units.length)
    (hnew : ∀ up, .looked u up ∉ trace units { flag } before) :
    .looked u true ∈ history units schedule flag := by
  have hlooks : u ∈ (history units schedule flag).filterMap PoolEvent.looker? :=
    (history_looked units schedule flag).mem_iff.2 (List.mem_range.2 hu)
  obtain ⟨e, he, hlooker⟩ := List.mem_filterMap.1 hlooks
  cases e with
  | ran v => cases hlooker
  | looked v up =>
    cases hlooker
    have hup : (before.foldl (step units) { flag }).flag = true := (flag_steps_iff _ _).2 hasked
    cases up with
    | true => exact he
    | false =>
      rw [history, hsteps, trace_append] at he
      rcases List.mem_append.1 he with he | he
      · exact absurd he (hnew false)
      · exact absurd he (looked_down_notMem_of_flag hup after u)

end Pool

namespace Run

variable {σ α : Type} {stages : Stages σ} {request : Request} {r r₁ r₂ r₃ : Run σ}

/-! ## Up to the second look -/

theorem keeps_flag_untilFirstLook (stages : Stages σ) (request : Request) :
    Keeps (fun r => r.flag) (untilFirstLook stages request) :=
  .bind (.modify fun _ => rfl) fun _ => .bind (keeps_validate (fun _ _ => rfl) request) fun _ =>
    .bind (keeps_checkPath request.source) fun _ => .pure _

theorem flag_untilSecondLook {settings : Settings} {found : Settings × List Char}
    (h₁ : outcome (untilFirstLook stages request) r = (.ok settings, r₁))
    (h₂ : outcome (untilSecondLook stages request) r = (.ok found, r₂)) :
    r₂.flag = (r₁.flag || (stages.read r₁.store request.source).cancels) := by
  rw [untilSecondLook, outcome_bind_ok h₁] at h₂
  -- A look that lets the run go on changes nothing.
  have hlook : Brings checkFlag r₁ fun _ r' => r' = r₁ := (keeps_checkFlag (v := id)).brings r₁
  refine hlook.bind (Q := fun _ r₂ =>
    r₂.flag = (r₁.flag || (stages.read r₁.store request.source).cancels)) (fun _ r' hr' => ?_)
    found r₂ h₂
  subst hr'
  refine Brings.bind (P := fun _ r'' =>
    r''.flag = (r'.flag || (stages.read r'.store request.source).cancels)) ?_
    fun text r'' h => .pure h
  intro text r'' h
  rw [readText, outcome_bind_ok (outcome_modifyGet ..), outcome_perform] at h
  injection h with _ hr
  rw [← hr]
  rfl

/-! ## Up to the work -/

theorem brings_flag_readLines (parser : LineParser) (number : Nat) (pending : List Event)
    (all : List (List Char)) (r : Run σ) :
    Brings (readLines stages parser number pending all) r fun _ r' =>
      r'.flag = (r.flag || parser.asks r.ids all) := by
  induction all generalizing number pending r with
  | nil =>
    refine .bind (.modify (P := fun _ r' => r'.flag = r.flag) rfl) fun _ r₁ h₁ => .pure ?_
    rw [h₁, LineParser.asks, Bool.or_false]
  | cons line all ih =>
    rw [readLines]
    refine .bind (.modifyGet (P := fun call r' => (call, r'.ids) = parser.parse line r.ids ∧
      r'.flag = (r.flag || call.cancels)) ⟨rfl, rfl⟩) fun call r₁ h₁ => ?_
    obtain ⟨hparse, hflag⟩ := h₁
    rw [LineParser.asks, ← hparse]
    dsimp only
    rw [← Bool.or_assoc, ← hflag]
    rcases call.result with (_ | record) | e | message
    · exact ih _ _ r₁
    · exact (ih _ _ r₁).bind fun records r₂ h₂ => .pure h₂
    · contradiction
    · exact .bind .trivial fun _ _ _ => .unwound _

theorem brings_flag_readRecords (source : Path) (parser : LineParser) (text : List Char)
    (r : Run σ) :
    Brings (readRecords stages source parser (Text.lines text)) r fun _ r' =>
      r'.flag = (r.flag || parser.asks r.ids (Text.lines text)) ∧
        r'.records = parser.records r.ids text := by
  have hflag : Brings (readRecords stages source parser (Text.lines text)) r fun _ r' =>
      r'.flag = (r.flag || parser.asks r.ids (Text.lines text)) :=
    (brings_flag_readLines parser 1 [] _ r).bind fun records r₁ h₁ =>
      .bind (.modify (P := fun _ r' => r'.flag = r₁.flag) rfl) fun _ r₂ h₂ =>
        .modify (h₂.trans h₁)
  intro a r' h
  exact ⟨hflag a r' h, brings_readRecords stages source parser text r a r' h⟩

theorem brings_flag_selectRecords (selection : FilterSettings) (r : Run σ) :
    Brings (selectRecords stages selection) r fun _ r' =>
      r'.flag = (r.flag || (stages.select selection r.records).cancels) := by
  refine .bind (.modifyGet (P := fun parsed r' => parsed = r.records ∧ r'.flag = r.flag) ⟨rfl, rfl⟩)
    fun parsed r₁ h₁ => ?_
  obtain ⟨rfl, hflag⟩ := h₁
  refine Brings.bind (P := fun _ r' =>
    r'.flag = (r.flag || (stages.select selection r.records).cancels)) ?_
    fun kept r₂ h₂ => .modify h₂
  intro kept r₂ h
  rw [outcome_perform] at h
  injection h with _ hr
  rw [← hr, ← hflag]
  rfl

/-- Whether somebody asks to cancel between the second look and the work: the parser on a line, or
what selects the records. -/
def asksInBetween (stages : Stages σ) (settings : Settings) (text : List Char) (ids : IdCounter) :
    Bool :=
  (stages.parserFor settings).asks ids (Text.lines text) ||
    (stages.select settings.selection ((stages.parserFor settings).records ids text)).cancels

theorem flag_untilWork {found : Settings × List Char} {settings : Settings}
    (h₂ : outcome (untilSecondLook stages request) r = (.ok found, r₂))
    (h₃ : outcome (untilWork stages request) r = (.ok settings, r₃)) :
    r₃.flag = (r₂.flag || asksInBetween stages found.1 found.2 r₂.ids) := by
  rw [untilWork, outcome_bind_ok h₂] at h₃
  have hlook : Brings checkFlag r₂ fun _ r' => r' = r₂ := (keeps_checkFlag (v := id)).brings r₂
  refine hlook.bind (Q := fun _ r₃ =>
    r₃.flag = (r₂.flag || asksInBetween stages found.1 found.2 r₂.ids)) (fun _ r' hr' => ?_)
    settings r₃ h₃
  subst hr'
  refine (brings_flag_readRecords request.source _ found.2 r').bind fun _ r₄ h₄ => ?_
  refine .bind (.modify (P := fun _ r₅ => r₅.flag = r₄.flag ∧ r₅.records = r₄.records) ⟨rfl, rfl⟩)
    fun _ r₅ h₅ => ?_
  refine (brings_flag_selectRecords found.1.selection r₅).bind fun _ r₆ h₆ => ?_
  refine .bind (.modify (P := fun _ r₇ => r₇.flag = r₆.flag) rfl) fun _ r₇ h₇ => ?_
  refine .bind ((keeps_startWorkers (v := fun r => r.flag) stages _).brings r₇)
    fun _ r₈ h₈ => .pure ?_
  rw [h₈, h₇, h₆, h₅.1, h₅.2, h₄.1, h₄.2, Bool.or_assoc]
  rfl

end Run

end LogDigest
