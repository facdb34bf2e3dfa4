import LogDigest.Command.Program
import LogDigest.Proofs.Numeral
import LogDigest.Run.Trail
import Mathlib.Data.List.Infix

/-!
# One line tells all causes

The text of a failure ends in the text of the failure right below it, whatever both of them tell
(`Failure.message_endsIn_of_cause?`, one case for each kind). So the text of a failed run ends in
the text of every failure on the way down, and the one line that the program shows holds them all
(`AnalysisError.message_tells_causes`).

**Failures of units.** They stand behind each other, each behind the same opening, with the number
of the record and the reason. The semicolon comes in the opening only at its first place, so two
openings cannot overlap, and a reason ends where the next one opens. Reasons that do not hold the
opening themselves are told apart (`ProcessError.unitFailures_inj`).
-/

namespace LogDigest

open Text

/-! ## Texts that end in each other -/

/-- The text ends in the other. -/
def EndsIn (s t : String) : Prop := ∃ lead, s = lead ++ t

theorem EndsIn.refl (s : String) : EndsIn s s := ⟨"", by simp⟩

theorem EndsIn.trans {s t u : String} (hst : EndsIn s t) (htu : EndsIn t u) : EndsIn s u := by
  obtain ⟨a, rfl⟩ := hst
  obtain ⟨b, rfl⟩ := htu
  exact ⟨a ++ b, by rw [String.append_assoc]⟩

/-- What ends in a text holds what the text holds. -/
theorem EndsIn.isInfix {s t u : String} (h : EndsIn s t) (hu : u.toList <:+: t.toList) :
    u.toList <:+: s.toList := by
  obtain ⟨lead, rfl⟩ := h
  rw [String.toList_append]
  exact hu.trans (List.suffix_append lead.toList t.toList).isInfix

namespace Failure

variable {e c f : Failure} (behind : OutsideError → List String)

/-! ## The way down -/

theorem trail_of_none (h : e.cause? = none) : e.trail = [e] := by
  rw [trail]
  split
  · rfl
  · rename_i c hsome
    rw [h] at hsome
    cases hsome

theorem trail_of_some (h : e.cause? = some c) : e.trail = e :: c.trail := by
  rw [trail]
  split
  · rename_i hnone
    rw [h] at hnone
    cases hnone
  · rename_i d hsome
    rw [h] at hsome
    cases hsome
    rfl

/-- **The text of a failure ends in the text of the failure right below.** -/
theorem message_endsIn_of_cause? (h : e.cause? = some c) : EndsIn e.message c.message := by
  -- Every kind puts words of its own before those of the failure below.
  unfold cause? at h
  split at h <;> cases h <;> exact ⟨_, rfl⟩

/-- The text of a failure ends in the text of every failure below. -/
theorem message_endsIn_of_mem_trail (h : f ∈ e.trail) : EndsIn e.message f.message := by
  induction e using trail.induct with
  | case1 e hnone =>
    rw [trail_of_none hnone] at h
    rw [List.mem_singleton.1 h]
    exact EndsIn.refl e.message
  | case2 e c hsome ih =>
    rw [trail_of_some hsome] at h
    rcases List.mem_cons.1 h with rfl | hbelow
    · exact EndsIn.refl f.message
    · exact (message_endsIn_of_cause? hsome).trans (ih hbelow)

/-- Behind a failure of the program there is nothing but the failures below. -/
theorem beyond_of_not_outside (h : ∀ o, e ≠ outside o) : e.beyond behind = [] := by
  unfold beyond
  split
  · rename_i o
    exact absurd rfl (h o)
  · rfl

theorem not_outside_of_some (h : e.cause? = some c) : ∀ o, e ≠ outside o := by
  rintro o rfl
  cases h

/-! ## Texts on the way -/

theorem texts_of_none (h : e.cause? = none) : e.texts behind = e.message :: e.beyond behind := by
  rw [texts, trail_of_none h, List.flatMap_singleton]

theorem texts_of_some (h : e.cause? = some c) :
    e.texts behind = e.message :: c.texts behind := by
  rw [texts, trail_of_some h, List.flatMap_cons,
    beyond_of_not_outside behind (not_outside_of_some h)]
  rfl

theorem head?_texts (e : Failure) : (e.texts behind).head? = some e.message := by
  cases h : e.cause? with
  | none => rw [texts_of_none behind h, List.head?_cons]
  | some c => rw [texts_of_some behind h, List.head?_cons]

/-- **Text by text.** The failures on the way have their texts in their places, and the text of a
failure of the program ends in the one behind it. -/
theorem texts_endIn {i : Nat} (hf : e.trail[i]? = some f) :
    (e.texts behind)[i]? = some f.message ∧
      ((∀ o, f ≠ outside o) →
        ∀ t, (e.texts behind)[i + 1]? = some t → EndsIn f.message t) := by
  induction e using trail.induct generalizing i with
  | case1 e hnone =>
    rw [trail_of_none hnone] at hf
    rw [texts_of_none behind hnone]
    cases i with
    | zero =>
      cases hf
      refine ⟨rfl, fun hown t ht => ?_⟩
      rw [beyond_of_not_outside behind hown] at ht
      cases ht
    | succ i => cases hf
  | case2 e c hsome ih =>
    rw [trail_of_some hsome] at hf
    rw [texts_of_some behind hsome]
    cases i with
    | zero =>
      cases hf
      refine ⟨rfl, fun hown t ht => ?_⟩
      rw [List.getElem?_cons_succ, ← List.head?_eq_getElem?, head?_texts, Option.some.injEq] at ht
      rw [← ht]
      exact message_endsIn_of_cause? hsome
    | succ i =>
      rw [List.getElem?_cons_succ] at hf
      rw [List.getElem?_cons_succ, List.getElem?_cons_succ]
      exact ih hf

/-- What outside errors have behind them is told by their own text. -/
def IsTold : Prop := ∀ o, ∀ t ∈ behind o, t.toList <:+: o.message.toList

/-- The text of a failure holds all texts on the way down. -/
theorem isInfix_of_mem_texts (htold : IsTold behind) {t : String} (ht : t ∈ e.texts behind) :
    t.toList <:+: e.message.toList := by
  obtain ⟨f, hf, htf⟩ := List.mem_flatMap.1 ht
  have hends := message_endsIn_of_mem_trail hf
  rcases List.mem_cons.1 htf with rfl | hbeyond
  · exact hends.isInfix (List.infix_refl f.message.toList)
  · cases f with
    | outside o => exact hends.isInfix (htold o t hbeyond)
    | _ => cases hbeyond

/-! ## The chain -/

/-- Only what starts the workers has an error behind it, which says the same. -/
def behindPool : OutsideError → List String
  | .pool e => [e.message]
  | _ => []

theorem isTold_behindPool : IsTold behindPool := by
  intro o t ht
  cases o with
  | pool e =>
    rw [List.mem_singleton.1 ht]
    exact List.infix_refl e.message.toList
  | _ => cases ht

theorem texts_outside (o : OutsideError) :
    (outside o).texts behindPool = o.message :: behindPool o :=
  texts_of_none behindPool rfl

theorem texts_config (e : ConfigError) : (config e).texts behindPool = e.chain := by
  cases e with
  | missing key => exact texts_of_none behindPool rfl
  | invalid key value expected => exact texts_of_none behindPool rfl
  | malformed path e => rw [texts_of_some behindPool rfl, texts_outside]; rfl
  | io path e => rw [texts_of_some behindPool rfl, texts_outside]; rfl

theorem texts_source (e : SourceError) : (source e).texts behindPool = e.chain := by
  cases e with
  | missingPath => exact texts_of_none behindPool rfl
  | io path e => rw [texts_of_some behindPool rfl, texts_outside]; rfl
  | cancelled => exact texts_of_none behindPool rfl

theorem texts_process (e : ProcessError) : (process e).texts behindPool = e.chain := by
  cases e with
  | unitFailures failures => exact texts_of_none behindPool rfl
  | cancelled completed total => exact texts_of_none behindPool rfl
  | threadPool workers e => rw [texts_of_some behindPool rfl, texts_outside]; rfl

theorem texts_exported (e : ExportError) : (exported e).texts behindPool = e.chain := by
  cases e with
  | unsupported path => exact texts_of_none behindPool rfl
  | io path e => rw [texts_of_some behindPool rfl, texts_outside]; rfl
  | csv path e => rw [texts_of_some behindPool rfl, texts_outside]; rfl
  | json path e => rw [texts_of_some behindPool rfl, texts_outside]; rfl

theorem texts_cause (c : Cause) : (cause c).texts behindPool = c.message :: c.below := by
  cases c with
  | config e => rw [texts_of_some behindPool rfl, texts_config]; rfl
  | source e => rw [texts_of_some behindPool rfl, texts_source]; rfl
  | filter e => rw [texts_of_some behindPool rfl, texts_of_none behindPool rfl]; rfl
  | process e => rw [texts_of_some behindPool rfl, texts_process]; rfl
  | sink e => rw [texts_of_some behindPool rfl, texts_of_some behindPool rfl, texts_outside]; rfl
  | exported e => rw [texts_of_some behindPool rfl, texts_exported]; rfl

/-- The chain of a failed run is made of the texts on the way down. -/
theorem texts_run (e : AnalysisError) : (run e).texts behindPool = e.chain := by
  rw [texts_of_some behindPool rfl, texts_cause]
  rfl

end Failure

/-! ## Failures of units -/

/-- How the failure of a unit opens. -/
def opening : List Char := "; record #".toList

theorem opening_eq : opening = ';' :: " record #".toList := rfl

/-- The failure of a unit behind others. -/
def UnitFailure.text (f : UnitFailure) : String := "; record " ++ f.record.text ++ ": " ++ f.reason

/-- The failures of units behind each other. -/
def unitFailuresText (failures : List UnitFailure) : String :=
  String.join (failures.map UnitFailure.text)

theorem ProcessError.message_unitFailures (failures : List UnitFailure) :
    (unitFailures failures).message =
      toString failures.length ++ " processing unit(s) failed" ++ unitFailuresText failures := by
  rfl

theorem unitFailuresText_append (fs gs : List UnitFailure) :
    unitFailuresText (fs ++ gs) = unitFailuresText fs ++ unitFailuresText gs := by
  simp [unitFailuresText, String.join_append]

theorem unitFailuresText_cons (f : UnitFailure) (fs : List UnitFailure) :
    unitFailuresText (f :: fs) = f.text ++ unitFailuresText fs := by
  simp [unitFailuresText]

theorem toList_unitFailuresText_cons (f : UnitFailure) (fs : List UnitFailure) :
    (unitFailuresText (f :: fs)).toList =
      opening ++ (Nat.toDigits 10 f.record.value.toNat ++
        (':' :: ' ' :: (f.reason.toList ++ (unitFailuresText fs).toList))) := by
  have hopening : "; record ".toList ++ "#".toList = opening := rfl
  have hbetween : ": ".toList = [':', ' '] := rfl
  have hdigits : (toString f.record.value.toNat).toList = Nat.toDigits 10 f.record.value.toNat :=
    toList_toString_ofNat f.record.value.toNat
  simp only [unitFailuresText_cons, UnitFailure.text, RecordId.text, String.toList_append, hdigits,
    ← hopening, hbetween, List.append_assoc, List.cons_append, List.nil_append]

/-! ### Where a reason ends -/

/-- Nothing follows, or another failure. -/
def Resumes (s : List Char) : Prop := s = [] ∨ opening <+: s

theorem resumes_unitFailuresText (fs : List UnitFailure) :
    Resumes (unitFailuresText fs).toList := by
  cases fs with
  | nil => exact Or.inl rfl
  | cons f fs =>
    refine Or.inr ?_
    rw [toList_unitFailuresText_cons]
    exact List.prefix_append _ _

/-- What opens before the next failure opens there whole. -/
theorem opening_isPrefix {x s : List Char} (hx : x ≠ []) (hs : Resumes s)
    (h : opening <+: x ++ s) : opening <+: x := by
  by_cases hlength : opening.length ≤ x.length
  · exact List.prefix_of_prefix_length_le h (List.prefix_append x s) hlength
  · -- Otherwise the opening goes on behind `x`, where the next one begins: it has two semicolons.
    have hpart : x <+: opening :=
      List.prefix_of_prefix_length_le (List.prefix_append x s) h (by omega)
    obtain ⟨y, hy⟩ := hpart
    rw [← hy, List.prefix_append_right_inj] at h
    cases y with
    | nil =>
      rw [List.append_nil] at hy
      rw [hy] at hlength
      exact absurd (Nat.le_refl opening.length) hlength
    | cons d y =>
      have hd : d = ';' := by
        rcases hs with rfl | hopens
        · cases List.prefix_nil.1 h
        · obtain ⟨a, rfl⟩ := h
          obtain ⟨b, hb⟩ := hopens
          rw [opening_eq, List.cons_append, List.cons_append, List.cons.injEq] at hb
          exact hb.1.symm
      obtain ⟨c, x, rfl⟩ := List.exists_cons_of_ne_nil hx
      rw [opening_eq, hd, List.cons_append, List.cons.injEq] at hy
      have hmem : ';' ∈ " record #".toList := by
        rw [← hy.2]
        exact List.mem_append_right x List.mem_cons_self
      exact absurd hmem (by decide)

/-- A reason that does not hold the opening ends where nothing follows or another failure. -/
theorem reason_inj {r r' s s' : List Char} (hr : ¬ opening <:+: r) (hr' : ¬ opening <:+: r')
    (hs : Resumes s) (hs' : Resumes s') (h : r ++ s = r' ++ s') : r = r' ∧ s = s' := by
  have hshort : ∀ {x s s' : List Char}, Resumes s → Resumes s' → s = x ++ s' →
      ¬ opening <+: x → x = [] := by
    intro x s s' hs hs' heq hnot
    by_contra hx
    rcases hs with hnil | hopens
    · rw [hnil] at heq
      exact hx (List.append_eq_nil_iff.1 heq.symm).1
    · rw [heq] at hopens
      exact hnot (opening_isPrefix hx hs' hopens)
  rcases List.append_eq_append_iff.1 h with ⟨x, hx, heq⟩ | ⟨x, hx, heq⟩
  · have hempty : x = [] := by
      apply hshort hs hs' heq
      intro hopens
      apply hr'
      rw [hx]
      exact hopens.isInfix.trans (List.suffix_append r x).isInfix
    rw [hempty, List.append_nil] at hx
    rw [hempty, List.nil_append] at heq
    exact ⟨hx.symm, heq⟩
  · have hempty : x = [] := by
      apply hshort hs' hs heq
      intro hopens
      apply hr
      rw [hx]
      exact hopens.isInfix.trans (List.suffix_append r' x).isInfix
    rw [hempty, List.append_nil] at hx
    rw [hempty, List.nil_append] at heq
    exact ⟨hx, heq.symm⟩

/-- The reason does not hold how a failure opens. -/
def UnitFailure.IsPlain (f : UnitFailure) : Prop := ¬ opening <:+: f.reason.toList

instance (f : UnitFailure) : Decidable f.IsPlain :=
  inferInstanceAs (Decidable (¬ opening <:+: f.reason.toList))

theorem toDigits_append_inj {m n : Nat} {s t : List Char} (hs : NoDigitNext s) (ht : NoDigitNext t)
    (h : Nat.toDigits 10 m ++ s = Nat.toDigits 10 n ++ t) : m = n ∧ s = t := by
  have hm : ∀ c ∈ Nat.toDigits 10 m, c.isDigit = true := fun c => isDigit_of_mem_toDigits
  have hn : ∀ c ∈ Nat.toDigits 10 n, c.isDigit = true := fun c => isDigit_of_mem_toDigits
  have hdigits : Nat.toDigits 10 m = Nat.toDigits 10 n := by
    rw [← takeWhile_isDigit_append hm hs, h, takeWhile_isDigit_append hn ht]
  have hnumber : m = n := by
    rw [← Nat.ofDigitChars_ten_toDigits (n := m), hdigits, Nat.ofDigitChars_ten_toDigits]
  refine ⟨hnumber, ?_⟩
  rw [← dropWhile_isDigit_append hm hs, h, dropWhile_isDigit_append hn ht]

/-- Failures behind each other are told apart. -/
theorem unitFailuresText_inj {fs gs : List UnitFailure} (hfs : ∀ f ∈ fs, f.IsPlain)
    (hgs : ∀ g ∈ gs, g.IsPlain) (h : unitFailuresText fs = unitFailuresText gs) : fs = gs := by
  have hcons : ∀ (f : UnitFailure) fs, (unitFailuresText (f :: fs)).toList ≠ [] := by
    intro f fs
    rw [toList_unitFailuresText_cons]
    exact List.append_ne_nil_of_left_ne_nil (by decide) _
  rw [← String.toList_inj] at h
  induction fs generalizing gs with
  | nil =>
    cases gs with
    | nil => rfl
    | cons g gs => exact absurd h.symm (hcons g gs)
  | cons f fs ih =>
    cases gs with
    | nil => exact absurd h (hcons f fs)
    | cons g gs =>
      rw [toList_unitFailuresText_cons, toList_unitFailuresText_cons,
        List.append_cancel_left_eq] at h
      have hcolon : ∀ s, NoDigitNext (':' :: s) := noDigitNext_cons (by decide)
      obtain ⟨hnumber, hbehind⟩ := toDigits_append_inj (hcolon _) (hcolon _) h
      rw [List.cons.injEq, List.cons.injEq] at hbehind
      obtain ⟨hreason, hrest⟩ :=
        reason_inj (hfs f List.mem_cons_self) (hgs g List.mem_cons_self)
          (resumes_unitFailuresText fs) (resumes_unitFailuresText gs) hbehind.2.2
      have hfg : f = g := by
        rcases f with ⟨⟨n⟩, r⟩
        rcases g with ⟨⟨m⟩, q⟩
        rw [UInt64.toNat_inj] at hnumber
        rw [String.toList_inj] at hreason
        cases hnumber
        cases hreason
        rfl
      rw [hfg, ih (fun f hf => hfs f (List.mem_cons_of_mem _ hf))
        (fun g hg => hgs g (List.mem_cons_of_mem _ hg)) hrest]

/-- **The text of the failures of units tells them all**, if no reason holds how a failure opens. -/
theorem ProcessError.unitFailures_inj {fs gs : List UnitFailure} (hfs : ∀ f ∈ fs, f.IsPlain)
    (hgs : ∀ g ∈ gs, g.IsPlain)
    (h : (unitFailures fs).message = (unitFailures gs).message) : fs = gs := by
  have hcount : ∀ n : Nat, (toString n).toList = Nat.toDigits 10 n := toList_toString_ofNat
  have hblank : " processing unit(s) failed".toList = ' ' :: "processing unit(s) failed".toList :=
    rfl
  have hwords : ∀ s, NoDigitNext (" processing unit(s) failed".toList ++ s) := by
    intro s
    rw [hblank]
    exact noDigitNext_cons (by decide) _
  rw [message_unitFailures, message_unitFailures, ← String.toList_inj] at h
  simp only [String.toList_append, hcount, List.append_assoc] at h
  obtain ⟨-, hbehind⟩ := toDigits_append_inj (hwords _) (hwords _) h
  rw [List.append_cancel_left_eq, String.toList_inj] at hbehind
  exact unitFailuresText_inj hfs hgs hbehind

/-! ## The line that is shown -/

/-- What a failed run says last is one line. -/
theorem Ending.outcome_failed (choices : Choices) (e : AnalysisError) (complaints : List String)
    (folder : Folder) :
    ((ofRun choices (.error (.failed e))).outcome complaints folder).exit = 1 ∧
      EndsIn ((ofRun choices (.error (.failed e))).outcome complaints folder).remarks
        ("Error: " ++ e.message ++ "\n") := by
  refine ⟨rfl, endLines complaints ++ String.ofList (Utf8.lossy folder.remarked), ?_⟩
  simp [outcome, ofRun, failure, endLines]

/-- **The line about a failed run tells all causes.** On the way down from the failure, the text of
every failure of the program ends in the text behind it. The line that is shown last ends in all of
them, in that of an error of something outside too, and it holds what is behind such an error if the
error tells that itself. The failures of units are counted and then all told, in their order; so
they are known from the text if no reason holds how a failure opens. -/
theorem AnalysisError.message_tells_causes (e : AnalysisError)
    (behind : OutsideError → List String) :
    (∀ i f, (Failure.run e).trail[i]? = some f →
      ((Failure.run e).texts behind)[i]? = some f.message ∧
        ((∀ o, f ≠ .outside o) →
          ∀ t, ((Failure.run e).texts behind)[i + 1]? = some t → EndsIn f.message t)) ∧
    (∀ choices complaints folder,
      ((Ending.ofRun choices (.error (.failed e))).outcome complaints folder).exit = 1 ∧
        EndsIn ((Ending.ofRun choices (.error (.failed e))).outcome complaints folder).remarks
          ("Error: " ++ e.message ++ "\n")) ∧
    (∀ f ∈ (Failure.run e).trail, EndsIn ("Error: " ++ e.message) f.message) ∧
    (Failure.IsTold behind → ∀ t ∈ (Failure.run e).texts behind,
      t.toList <:+: ("Error: " ++ e.message).toList) ∧
    (Failure.run e).texts Failure.behindPool = e.chain ∧
    (∀ failures, e.cause = .process (.unitFailures failures) →
      EndsIn e.message
          (toString failures.length ++ " processing unit(s) failed" ++ unitFailuresText failures) ∧
        ∀ fs f gs, failures = fs ++ f :: gs →
          unitFailuresText failures =
            unitFailuresText fs ++ ("; record " ++ f.record.text ++ ": " ++ f.reason) ++
              unitFailuresText gs) ∧
    ∀ fs gs : List UnitFailure, (∀ f ∈ fs, f.IsPlain) → (∀ g ∈ gs, g.IsPlain) →
      (ProcessError.unitFailures fs).message = (ProcessError.unitFailures gs).message →
      fs = gs := by
  have hline : EndsIn ("Error: " ++ e.message) e.message := ⟨"Error: ", rfl⟩
  refine ⟨?_, ?_, ?_, ?_, Failure.texts_run e, ?_, ?_⟩
  · intro i f hf
    exact Failure.texts_endIn behind hf
  · intro choices complaints folder
    exact Ending.outcome_failed choices e complaints folder
  · intro f hf
    exact hline.trans (Failure.message_endsIn_of_mem_trail hf)
  · intro htold t ht
    have hinside := Failure.isInfix_of_mem_texts behind htold ht
    exact hline.isInfix hinside
  · intro failures hcause
    have hprocess : Failure.process (.unitFailures failures) ∈ (Failure.run e).trail := by
      rw [Failure.trail_of_some rfl, hcause, Failure.trail_of_some rfl, Failure.trail_of_none rfl]
      simp
    refine ⟨Failure.message_endsIn_of_mem_trail hprocess, ?_⟩
    rintro fs f gs rfl
    rw [unitFailuresText_append, unitFailuresText_cons, ← String.append_assoc]
    rfl
  · intro fs gs hfs hgs hmessage
    exact ProcessError.unitFailures_inj hfs hgs hmessage

/-- A table that could not be written, and two records that failed for reasons with semicolons. -/
theorem AnalysisError.message_tells_causes_twoUnits :
    let full : AnalysisError := ⟨.persisting, .exported (.csv ⟨"out.csv"⟩ .full)⟩
    let failures : List UnitFailure := [⟨⟨3⟩, "a; b"⟩, ⟨⟨5⟩, "record #7: c"⟩]
    let failed : AnalysisError := ⟨.processing, .process (.unitFailures failures)⟩
    EndsIn ("Error: " ++ full.message) "writer full" ∧
      (∀ t ∈ full.chain, t.toList <:+: ("Error: " ++ full.message).toList) ∧
      EndsIn failed.message
        "2 processing unit(s) failed; record #3: a; b; record #5: record #7: c" ∧
      ∀ gs : List UnitFailure, (∀ g ∈ gs, g.IsPlain) →
        (ProcessError.unitFailures failures).message = (ProcessError.unitFailures gs).message →
        failures = gs := by
  intro full failures failed
  obtain ⟨-, -, htrail, htold, hchain, -⟩ := full.message_tells_causes Failure.behindPool
  obtain ⟨-, -, -, -, -, hunits, hinj⟩ := failed.message_tells_causes Failure.behindPool
  have hplain : ∀ f ∈ failures, f.IsPlain := by decide
  have htext : toString failures.length ++ " processing unit(s) failed" ++
      unitFailuresText failures =
        "2 processing unit(s) failed; record #3: a; b; record #5: record #7: c" := by
    decide +kernel
  have hroot : Failure.outside (.csv .full) ∈ (Failure.run full).trail := by
    rw [Failure.trail_of_some rfl, Failure.trail_of_some rfl, Failure.trail_of_some rfl,
      Failure.trail_of_none rfl]
    simp [full]
  refine ⟨htrail _ hroot, ?_, ?_, fun gs hgs => hinj failures gs hplain hgs⟩
  · rw [← hchain]
    exact htold Failure.isTold_behindPool
  · rw [← htext]
    exact (hunits failures rfl).1

end LogDigest
