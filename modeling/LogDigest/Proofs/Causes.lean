import LogDigest.Proofs.Compiling
import LogDigest.Proofs.Discretion
import LogDigest.Proofs.Run.Processing
import LogDigest.Proofs.Validation
import Mathlib.Data.List.Infix

/-!
# What causes of failures tell

The event about a failure tells its cause in full, however long it is. What a cause is made of are
the words of its kind, what the system answered, and the texts that it carries (`Cause.texts`).

These texts are accounted for by the request (`Request.Accounts`): a cause names a path that was
asked for, a value that was set, or what is wrong with a clause of the filter. A clause is told with
single spaces between its words, so blanks do not count here. The one text that does not come from
the request is a level that is not known.
-/

namespace LogDigest

open Text

/-! ## Texts of causes -/

/-- The texts that a failure carries. -/
def ConfigError.texts : ConfigError → List String
  | missing _ => []
  | invalid _ value expected => [value, expected]
  | malformed path cause => [path.text, cause.message]
  | io path _ => [path.text]

/-- The texts that a failure carries. -/
def SourceError.texts : SourceError → List String
  | missingPath | cancelled => []
  | io path _ => [path.text]

/-- The texts that a failure carries. -/
def FilterError.texts : FilterError → List String
  | invalidCriterion criterion => [criterion]
  | unsupportedField field criterion => [field, criterion]
  | unsupportedKind _ criterion => [criterion]
  | coercion criterion value _ => [criterion, value]
  | unknownLevel level _ => [level]

def ProcessError.texts : ProcessError → List String
  | unitFailures failures => failures.map (·.reason)
  | cancelled .. | threadPool .. => []

/-- The texts that a failure carries. -/
def ExportError.texts : ExportError → List String
  | unsupported path | io path _ | csv path _ | json path _ => [path.text]

/-- The texts that a cause carries, besides what the system answered. -/
def Cause.texts : Cause → List String
  | config e => e.texts
  | source e => e.texts
  | filter e => e.texts
  | process e => e.texts
  | sink e => [e.path.text]
  | exported e => e.texts

/-- The text is no longer than a preview, or stands in the request if blanks do not count. -/
def Request.Accounts (request : Request) (s : String) : Prop :=
  s.length ≤ previewLimit ∨
    ∃ t, request.Says t ∧ withoutBlanks s.toList <:+: withoutBlanks t.toList

theorem Request.Covers.accounts {request : Request} {s : String} (h : request.Covers s) :
    request.Accounts s :=
  h.imp_right fun ⟨t, ht, hs⟩ => ⟨t, ht, hs.filter _⟩

/-! ## Settings -/

theorem SettingKey.length_expectation_le {key : SettingKey} {expected : String}
    (h : expected ∈ key.expectations) : expected.length ≤ previewLimit := by
  have hshort : ∀ s ∈ key.expectations, s.length ≤ previewLimit := by
    cases key <;> decide
  exact hshort expected h

namespace Request

variable {request : Request}

/-- What is wrong with settings is a value that was set, and what is expected instead. -/
theorem accounts_config {e : ConfigError} (h : request.choices.validate = .error e) :
    ∀ s ∈ e.texts, request.Accounts s := by
  obtain ⟨key, -, -, hoffends⟩ := Choices.validate_eq_error_iff.1 h
  cases hoffends with
  | missing => nofun
  | @invalid value expected hset hthere hcheck =>
    obtain ⟨expected, hexpected, he⟩ := SettingKey.exists_expectation_of_check hcheck
    cases he
    refine List.forall_mem_cons.2 ⟨(Says.covers (.inr ⟨key, hset⟩)).accounts, ?_⟩
    exact List.forall_mem_singleton.2 (.inl (SettingKey.length_expectation_le hexpected))

end Request

/-! ## Filters -/

/-- What is wrong with a clause tells parts of the clause. -/
theorem Criterion.isInfix_of_ofText {text : List Char} {e : FilterError}
    (h : ofText text = .error e) :
    (∀ level id, e ≠ .unknownLevel level id) ∧ ∀ s ∈ e.texts, s.toList <:+: text := by
  have hwhole : (String.ofList text).toList <:+: text := by
    rw [String.toList_ofList]
  have htrim : ∀ p ∈ pieces (· == '=') text, (String.ofList (trim p)).toList <:+: text := by
    intro p hp
    rw [String.toList_ofList]
    exact (isInfix_trim p).trans (isInfix_of_mem_pieces hp)
  rw [ofText] at h
  split at h
  · rename_i name value hpieces
    rw [hpieces] at htrim
    have hname := htrim name List.mem_cons_self
    have hvalue := htrim value (List.mem_cons_of_mem name List.mem_cons_self)
    dsimp only at h
    split at h
    · cases h
      exact ⟨nofun, List.forall_mem_singleton.2 hwhole⟩
    split at h
    · cases h
      exact ⟨nofun, List.forall_mem_cons.2 ⟨hname, List.forall_mem_singleton.2 hwhole⟩⟩
    · rw [readValue] at h
      split at h
      · cases h
      · split at h <;> cases h
        exact ⟨nofun, List.forall_mem_cons.2 ⟨hwhole, List.forall_mem_singleton.2 hvalue⟩⟩
      · split at h <;> cases h
        exact ⟨nofun, List.forall_mem_cons.2 ⟨hwhole, List.forall_mem_singleton.2 hvalue⟩⟩
      · cases h
        exact ⟨nofun, List.forall_mem_singleton.2 hwhole⟩
  · cases h
    exact ⟨nofun, List.forall_mem_singleton.2 hwhole⟩

namespace CompiledFilter

/-- A clause stands in the filter text if blanks do not count. -/
theorem isInfix_of_mem_clauses {text : String} {t : List Char} (h : t ∈ clauses text) :
    withoutBlanks t <:+: withoutBlanks text.toList := by
  rw [clauses, clausesOf] at h
  obtain ⟨part, hpart, rfl⟩ := List.mem_map.1 h
  have hinside : part <:+: words text.toList := isInfix_of_mem_splitOnP (List.mem_filter.1 hpart).1
  rw [withoutBlanks_unwords fun w hw => isWord_of_mem_words (hinside.subset hw), ← flatten_words]
  exact hinside.flatten

end CompiledFilter

namespace Request

variable {request : Request} {settings : Settings}

theorem accounts_filter {connectives : Connectives} {e : FilterError}
    (hvalid : request.choices.validate = .ok settings)
    (h : CompiledFilter.ofText connectives settings.selection.criteria = .error e) :
    (∀ level id, e ≠ .unknownLevel level id) ∧ ∀ s ∈ e.texts, request.Accounts s := by
  obtain ⟨before, t, after, hclauses, -, ht⟩ := CompiledFilter.ofText_eq_error_iff.1 h
  obtain ⟨hlevel, hinside⟩ := Criterion.isInfix_of_ofText ht
  have hclause : t ∈ CompiledFilter.clauses settings.selection.criteria := by simp [hclauses]
  refine ⟨hlevel, fun s hs => ?_⟩
  rw [(Choices.texts_of_validate hvalid).2] at hclause
  cases hset : request.choices.get? .filter with
  | none =>
    rw [hset] at hclause
    cases hclause
  | some criteria =>
    rw [hset] at hclause
    exact .inr ⟨criteria, .inr ⟨.filter, hset⟩,
      ((hinside s hs).filter _).trans (CompiledFilter.isInfix_of_mem_clauses hclause)⟩

end Request

/-! ## Processing -/

/-- Work that tells priorities does not fail. -/
theorem texts_of_classify {schedule : Schedule} {flag : Bool} {records : List Record}
    {e : ProcessError} (h : (processAll classify schedule flag records).result = .error e) :
    e.texts = [] := by
  have hnone : ∀ finished, unitFailures finished
      (records.map fun r => { record := r, call := classify r }) = [] := by
    intro finished
    refine List.filterMap_eq_nil_iff.2 fun ⟨w, u⟩ hw => ?_
    obtain ⟨r, -, rfl⟩ := List.mem_map.1 (List.fst_mem_of_mem_zipIdx hw)
    dsimp only
    split_ifs <;> rfl
  have hsorted : sortFailures [] = [] := (sortFailures_perm []).eq_nil
  rw [processAll, processUnits] at h
  simp only [hnone, hsorted, List.isEmpty_nil, if_true] at h
  split at h
  · cases h
    rfl
  · cases h

end LogDigest
