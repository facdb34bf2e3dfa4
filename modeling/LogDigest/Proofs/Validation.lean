import LogDigest.Proofs.Settings
import LogDigest.Settings.File

/-!
# A run and a configuration file agree on what is valid

A run reads its settings one after the other. A configuration file has each of its entries checked
by itself. Both come to the same verdict (`validate_agrees_with_check`).

**Offences** (`Choices.Offends`). What is wrong with a key is said of that key alone: it has to be
set and is not, or is blank, or its value does not pass its check. Choices are valid exactly if no
key offends, and otherwise the first one that does is the error. The reason is that every reader in
`validate` fails as the check of its key does, so the failure of the whole is the first failure
among the keys (`fault?_validate`).

**What a file supplies.** An entry is kept exactly if it passes its check (`get?_ofFile`). So what a
file adds to other choices never makes them invalid, and an entry that was left out would have made
any choices invalid.
-/

namespace LogDigest

/-! ## Failures of a sequence of steps -/

def fault? {ε α : Type} : Except ε α → Option ε
  | .error e => some e
  | .ok _ => none

section Fault

variable {ε α β : Type}

theorem fault?_eq_some_iff {x : Except ε α} {e : ε} : fault? x = some e ↔ x = .error e := by
  cases x <;> simp [fault?]

theorem fault?_eq_none_iff {x : Except ε α} : fault? x = none ↔ ∃ a, x = .ok a := by
  cases x <;> simp [fault?]

theorem fault?_map (f : α → β) (x : Except ε α) : fault? (x.map f) = fault? x := by
  cases x <;> rfl

theorem fault?_mapError {δ : Type} (f : ε → δ) (x : Except ε α) :
    fault? (x.mapError f) = (fault? x).map f := by
  cases x <;> rfl

/-- The first step that fails is the failure of both, if the second does not look at the first. -/
theorem fault?_bind {x : Except ε α} {f : α → Except ε β} {o : Option ε}
    (hf : ∀ a, fault? (f a) = o) : fault? (x >>= f) = (fault? x).or o := by
  cases x with
  | error e => rfl
  | ok a => exact hf a

end Fault

/-! ## Offences -/

namespace SettingKey

/-- The keys whose values a run checks, in the order in which it looks at them. -/
def checked : List SettingKey :=
  [.logLevel, .outputPath, .parseMode, .levelPolicy, .connectives, .workerThreads, .exportPath]

/-- The checked keys before this one. -/
def earlier (key : SettingKey) : List SettingKey := checked.takeWhile (· != key)

def isRequired : SettingKey → Bool
  | .logLevel | .outputPath => true
  | .filter | .parseMode | .levelPolicy | .connectives | .workerThreads | .exportPath => false

theorem mem_checked_iff {key : SettingKey} : key ∈ checked ↔ key ≠ .filter := by
  cases key <;> decide

/-- A search along the checked keys finds what the first one has for which there is something. -/
theorem findSome?_checked_eq_some_iff {α : Type} {f : SettingKey → Option α} {a : α} :
    checked.findSome? f = some a ↔
      ∃ key ∈ checked, (∀ k ∈ key.earlier, f k = none) ∧ f key = some a := by
  rw [List.findSome?_eq_some_iff]
  constructor
  · rintro ⟨before, key, after, heq, hkey, hbefore⟩
    have hnodup : (before ++ key :: after).Nodup := by
      rw [← heq]
      decide
    have hnot : ∀ k ∈ before, (k != key) = true := by
      intro k hk
      have := (List.nodup_append.1 hnodup).2.2 k hk key List.mem_cons_self
      simpa using this
    have hearlier : key.earlier = before := by
      rw [earlier, heq, List.takeWhile_append_of_pos hnot, List.takeWhile_cons_of_neg (by simp),
        List.append_nil]
    refine ⟨key, by simp [heq], ?_, hkey⟩
    rw [hearlier]
    exact hbefore
  · rintro ⟨key, hchecked, hearlier, hkey⟩
    obtain ⟨after, heq⟩ : ∃ after, checked = key.earlier ++ key :: after := by
      cases key with
      | filter => exact absurd hchecked (by decide)
      | _ => exact ⟨_, rfl⟩
    exact ⟨key.earlier, key, after, heq, hkey, hearlier⟩

/-- What a key expects of a value that does not pass its check. -/
def expectations : SettingKey → List String
  | .logLevel => ["one of Debug, Info, Warning, Error"]
  | .outputPath => ["a non-empty path"]
  | .filter => []
  | .parseMode => ["plain, access, combined or auto"]
  | .levelPolicy => ["tolerant or strict"]
  | .connectives => ["legacy or or-of-ands"]
  | .workerThreads => ["an integer 0-256 (0 = auto)"]
  | .exportPath => ["a .json or .csv path", "a non-empty path"]

/-- A value that does not pass its check is reported with its key and what the key expects. -/
theorem exists_expectation_of_check {key : SettingKey} {value : String} {e : ConfigError}
    (h : key.check value = .error e) :
    ∃ expected ∈ key.expectations, e = .invalid key value expected := by
  rw [← fault?_eq_some_iff] at h
  cases key with
  | filter => cases h
  | logLevel =>
    rw [check, fault?_map, Settings.readSeverity] at h
    split at h <;> cases h
    exact ⟨_, List.mem_cons_self, rfl⟩
  | outputPath =>
    rw [check, fault?_map, Settings.readPath] at h
    split at h <;> cases h
    exact ⟨_, List.mem_cons_self, rfl⟩
  | parseMode =>
    rw [check, fault?_map, Settings.readShape, fault?_mapError, Option.map_eq_some_iff] at h
    obtain ⟨-, -, rfl⟩ := h
    exact ⟨_, List.mem_cons_self, rfl⟩
  | levelPolicy =>
    rw [check, fault?_map, Settings.readPolicy, fault?_mapError, Option.map_eq_some_iff] at h
    obtain ⟨-, -, rfl⟩ := h
    exact ⟨_, List.mem_cons_self, rfl⟩
  | connectives =>
    rw [check, fault?_map, Settings.readConnectives, fault?_mapError, Option.map_eq_some_iff] at h
    obtain ⟨-, -, rfl⟩ := h
    exact ⟨_, List.mem_cons_self, rfl⟩
  | workerThreads =>
    rw [check, fault?_map, Settings.readWorkers] at h
    split at h <;> cases h
    exact ⟨_, List.mem_cons_self, rfl⟩
  | exportPath =>
    rw [check, fault?_map, Settings.readExportPath, Settings.readPath] at h
    split at h
    · rename_i heq
      split at heq <;> cases heq
      cases h
      exact ⟨_, List.mem_cons_of_mem _ List.mem_cons_self, rfl⟩
    · split at h <;> cases h
      exact ⟨_, List.mem_cons_self, rfl⟩

/-- A value that does not pass its check is reported with its key. -/
theorem exists_eq_invalid_of_check {key : SettingKey} {value : String} {e : ConfigError}
    (h : key.check value = .error e) : ∃ expected, e = .invalid key value expected := by
  obtain ⟨expected, -, he⟩ := exists_expectation_of_check h
  exact ⟨expected, he⟩

/-- A key that has to be set does not take a blank value. -/
theorem exists_check_eq_error_of_blank {key : SettingKey} {value : String}
    (hkey : key.isRequired = true) (hblank : Settings.isBlankText value = true) :
    ∃ e, key.check value = .error e := by
  have htrim : Text.trim value.toList = [] := List.isEmpty_iff.1 hblank
  cases key with
  | logLevel =>
    have hlevel : Severity.ofLevel? value = none := by
      rw [Severity.ofLevel?, htrim]
      decide
    rw [check, Settings.readSeverity, hlevel]
    exact ⟨_, rfl⟩
  | outputPath =>
    rw [check, Settings.readPath, if_pos hblank]
    exact ⟨_, rfl⟩
  | filter | parseMode | levelPolicy | connectives | workerThreads | exportPath => cases hkey

end SettingKey

namespace Choices

/-- What is wrong with a key. -/
inductive Offends (c : Choices) (key : SettingKey) : ConfigError → Prop
  /-- The key has to be set, and is not, or is blank. -/
  | missing (hkey : key.isRequired = true)
    (hblank : ∀ value, c.get? key = some value → Settings.isBlankText value = true) :
    Offends c key (.missing key)
  /-- The value does not pass its check. -/
  | invalid {value expected : String} (hset : c.get? key = some value)
    (hthere : key.isRequired = true → Settings.isBlankText value = false)
    (hcheck : key.check value = .error (.invalid key value expected)) :
    Offends c key (.invalid key value expected)

/-- What is wrong with a key, if anything is. -/
def offence? (c : Choices) (key : SettingKey) : Option ConfigError :=
  match c.get? key with
  | none => if key.isRequired then some (.missing key) else none
  | some value =>
    if key.isRequired && Settings.isBlankText value then some (.missing key)
    else fault? (key.check value)

variable {c : Choices} {key : SettingKey}

theorem offence?_eq_some_iff {e : ConfigError} : c.offence? key = some e ↔ c.Offends key e := by
  constructor
  · intro h
    rw [offence?] at h
    split at h
    · rename_i hunset
      split at h <;> cases h
      exact .missing ‹_› (by simp [hunset])
    · rename_i value hset
      split at h
      · rename_i hblank
        rw [Bool.and_eq_true] at hblank
        cases h
        exact .missing hblank.1 (by simp [hset, hblank.2])
      · rename_i hthere
        rw [Bool.and_eq_true, not_and, Bool.not_eq_true] at hthere
        have hcheck := fault?_eq_some_iff.1 h
        obtain ⟨expected, rfl⟩ := SettingKey.exists_eq_invalid_of_check hcheck
        exact .invalid hset hthere hcheck
  · intro h
    cases h with
    | missing hkey hblank =>
      rw [offence?]
      cases hset : c.get? key with
      | none => simp [hkey]
      | some value => simp [hkey, hblank value hset]
    | invalid hset hthere hcheck =>
      simp only [offence?, hset, hcheck, fault?]
      rw [if_neg]
      rw [Bool.and_eq_true, not_and, Bool.not_eq_true]
      exact hthere

theorem offence?_eq_none_iff : c.offence? key = none ↔ ∀ e, ¬ c.Offends key e := by
  simp only [← offence?_eq_some_iff, Option.eq_none_iff_forall_ne_some, ne_eq]

/-- Only the value of the key counts. -/
theorem Offends.congr {d : Choices} {e : ConfigError} (h : c.Offends key e)
    (hget : c.get? key = d.get? key) : d.Offends key e := by
  cases h with
  | missing hkey hblank => exact .missing hkey fun value hset => hblank value (hget.trans hset)
  | invalid hset hthere hcheck => exact .invalid (hget.symm.trans hset) hthere hcheck

/-- A value that does not pass its check makes its key offend. -/
theorem exists_offends_of_check {value : String} {e : ConfigError} (hset : c.get? key = some value)
    (hcheck : key.check value = .error e) : ∃ e', c.Offends key e' := by
  obtain ⟨expected, rfl⟩ := SettingKey.exists_eq_invalid_of_check hcheck
  by_cases hblank : key.isRequired = true ∧ Settings.isBlankText value = true
  · exact ⟨_, .missing hblank.1 (by simp [hset, hblank.2])⟩
  · exact ⟨_, .invalid hset (fun hkey => by simpa [hkey] using hblank) hcheck⟩

/-- No key offends exactly if what has to be set is there and every value passes its check. -/
theorem forall_not_offends_iff : (∀ key ∈ SettingKey.checked, ∀ e, ¬ c.Offends key e) ↔
    (∀ key : SettingKey, key.isRequired = true →
      ∃ value, c.get? key = some value ∧ Settings.isBlankText value = false) ∧
    ∀ key ∈ SettingKey.checked, ∀ value, c.get? key = some value → key.check value = .ok () := by
  constructor
  · intro h
    have hthere : ∀ key : SettingKey, key.isRequired = true →
        ∃ value, c.get? key = some value ∧ Settings.isBlankText value = false := by
      intro key hkey
      have hchecked : key ∈ SettingKey.checked := by
        rw [SettingKey.mem_checked_iff]
        rintro rfl
        cases hkey
      have hunblank : ¬ ∀ value, c.get? key = some value → Settings.isBlankText value = true :=
        fun hblank => h key hchecked _ (.missing hkey hblank)
      cases hset : c.get? key with
      | none => exact absurd (by simp [hset]) hunblank
      | some value => exact ⟨value, rfl, by simpa [hset] using hunblank⟩
    refine ⟨hthere, fun key hchecked value hset => ?_⟩
    cases hcheck : key.check value with
    | ok _ => rfl
    | error e =>
      obtain ⟨expected, rfl⟩ := SettingKey.exists_eq_invalid_of_check hcheck
      refine absurd (.invalid hset (fun hkey => ?_) hcheck) (h key hchecked _)
      obtain ⟨value', hset', hblank⟩ := hthere key hkey
      rw [hset] at hset'
      cases hset'
      exact hblank
  · rintro ⟨hthere, hchecks⟩ key hchecked e hoffends
    cases hoffends with
    | missing hkey hblank =>
      obtain ⟨value, hset, hsome⟩ := hthere key hkey
      rw [hblank value hset] at hsome
      cases hsome
    | invalid hset _ hcheck =>
      rw [hchecks key hchecked _ hset] at hcheck
      cases hcheck

/-! ## Validation -/

section Steps

variable {α β : Type} {read : String → Except ConfigError α} {keys : List SettingKey}

theorem findSome?_offence?_cons (key : SettingKey) (keys : List SettingKey) :
    (key :: keys).findSome? c.offence? = (c.offence? key).or (keys.findSome? c.offence?) := by
  rw [List.findSome?_cons]
  cases c.offence? key <;> rfl

/-- Reading a key that has to be set fails as the key offends. -/
theorem fault?_required_bind {rest : α → Except ConfigError β} (hkey : key.isRequired = true)
    (hcheck : ∀ value, fault? (read value) = fault? (key.check value))
    (hrest : ∀ a, fault? (rest a) = keys.findSome? c.offence?) :
    fault? (c.required key >>= fun value => read value >>= rest) =
      (key :: keys).findSome? c.offence? := by
  rw [← bind_assoc, fault?_bind hrest, findSome?_offence?_cons, required, offence?]
  cases c.get? key with
  | none => simp [hkey, fault?, bind, Except.bind]
  | some value =>
    simp only [← hcheck, hkey, Bool.true_and, Option.filter_some]
    cases Settings.isBlankText value <;> rfl

/-- Reading a key that need not be set fails as the key offends. -/
theorem fault?_optional_bind {rest : Option α → Except ConfigError β}
    (hkey : key.isRequired = false)
    (hcheck : ∀ value, fault? (read value) = fault? (key.check value))
    (hrest : ∀ a, fault? (rest a) = keys.findSome? c.offence?) :
    fault? (c.optional key read >>= rest) = (key :: keys).findSome? c.offence? := by
  rw [fault?_bind hrest, findSome?_offence?_cons, optional, offence?]
  cases c.get? key with
  | none => simp [hkey, fault?]
  | some value => simp [hkey, fault?_map, hcheck]

end Steps

/-- **Validation fails as the first key that offends.** -/
theorem fault?_validate (c : Choices) :
    fault? c.validate = SettingKey.checked.findSome? c.offence? := by
  have hcheck : ∀ {α : Type} {x : Except ConfigError α}, fault? x = fault? (x.map fun _ => ()) :=
    (fault?_map _ _).symm
  rw [validate, SettingKey.checked]
  refine fault?_required_bind rfl (fun _ => hcheck) fun minimum => ?_
  refine fault?_required_bind rfl (fun _ => hcheck) fun output => ?_
  refine fault?_optional_bind rfl (fun _ => hcheck) fun shape => ?_
  refine fault?_optional_bind rfl (fun _ => hcheck) fun policy => ?_
  refine fault?_optional_bind rfl (fun _ => hcheck) fun connectives => ?_
  refine fault?_optional_bind rfl (fun _ => hcheck) fun workers => ?_
  exact fault?_optional_bind rfl (fun _ => hcheck) fun exportTo => rfl

theorem validate_eq_error_iff {e : ConfigError} : c.validate = .error e ↔
    ∃ key ∈ SettingKey.checked, (∀ k ∈ key.earlier, ∀ e', ¬ c.Offends k e') ∧ c.Offends key e := by
  simp only [← fault?_eq_some_iff, fault?_validate, SettingKey.findSome?_checked_eq_some_iff,
    offence?_eq_none_iff, offence?_eq_some_iff]

theorem exists_validate_eq_error_iff : (∃ e, c.validate = .error e) ↔
    ¬ ∃ settings, c.validate = .ok settings := by
  cases c.validate <;> simp

theorem exists_validate_eq_ok_iff : (∃ settings, c.validate = .ok settings) ↔
    ∀ key ∈ SettingKey.checked, ∀ e, ¬ c.Offends key e := by
  simp only [← fault?_eq_none_iff, fault?_validate, List.findSome?_eq_none_iff,
    offence?_eq_none_iff]

end Choices

/-! ## Entries of a file -/

namespace Config

/-- The warning about an entry that is left out. -/
def warningOf (e : ConfigError) : String := "[analysis] " ++ e.message ++ ". Ignoring this setting."

/-- The entry of a file for a key, if it passes its check. -/
def kept? (f : ConfigFile) (key : SettingKey) : Option String :=
  (f.analysis.get? key).filter fun value => (key.check value).isOk

variable {f : ConfigFile} {key : SettingKey} {value : String}

theorem kept?_eq_some_iff : kept? f key = some value ↔
    f.analysis.get? key = some value ∧ key.check value = .ok () := by
  rw [kept?, Option.filter_eq_some_iff]
  cases key.check value <;> simp [Except.isOk, Except.toBool]

/-- One step takes the entry of its key and leaves the others. -/
theorem get?_takeSetting (f : ConfigFile) (c : Config) (key k : SettingKey) :
    (takeSetting f c key).analysis.get? k =
      if k = key then (kept? f k).or (c.analysis.get? k) else c.analysis.get? k := by
  rw [takeSetting, kept?]
  by_cases hk : k = key
  · subst hk
    rw [if_pos rfl]
    cases f.analysis.get? k with
    | none => rfl
    | some value =>
      dsimp only
      rw [Option.filter_some]
      cases k.check value with
      | ok _ => simp [Choices.set, Except.isOk, Except.toBool]
      | error e => rfl
  · rw [if_neg hk]
    split
    · rfl
    · split
      · simp [Choices.set, hk]
      · rfl

theorem get?_foldl_takeSetting (f : ConfigFile) (keys : List SettingKey) (c : Config)
    (k : SettingKey) :
    (keys.foldl (takeSetting f) c).analysis.get? k =
      if k ∈ keys then (kept? f k).or (c.analysis.get? k) else c.analysis.get? k := by
  induction keys generalizing c with
  | nil => rfl
  | cons key keys ih =>
    rw [List.foldl_cons, ih, get?_takeSetting]
    by_cases hk : k = key <;> by_cases hmem : k ∈ keys <;>
      simp [hk, hmem, ← Option.or_assoc]

theorem mem_warnings_takeSetting (f : ConfigFile) (c : Config) (key : SettingKey) {w : String}
    (h : w ∈ c.warnings) : w ∈ (takeSetting f c key).warnings := by
  rw [takeSetting]
  split
  · exact h
  · split
    · exact h
    · exact List.mem_append_left _ h

theorem mem_warnings_foldl_takeSetting (f : ConfigFile) (keys : List SettingKey) (c : Config)
    {w : String} (h : w ∈ c.warnings) : w ∈ (keys.foldl (takeSetting f) c).warnings := by
  induction keys generalizing c with
  | nil => exact h
  | cons key keys ih => exact ih _ (mem_warnings_takeSetting f c key h)

/-- An entry that does not pass its check is warned of. -/
theorem warningOf_mem_foldl_takeSetting {e : ConfigError}
    (hset : f.analysis.get? key = some value) (hcheck : key.check value = .error e)
    {keys : List SettingKey} (hkey : key ∈ keys) (c : Config) :
    warningOf e ∈ (keys.foldl (takeSetting f) c).warnings := by
  induction keys generalizing c with
  | nil => cases hkey
  | cons k keys ih =>
    rcases List.mem_cons.1 hkey with rfl | hkey
    · have hwarned : warningOf e ∈ (takeSetting f c key).warnings := by
        simp [takeSetting, hset, hcheck, warningOf]
      exact mem_warnings_foldl_takeSetting f keys _ hwarned
    · exact ih hkey _

theorem takeLevel_keeps (f : ConfigFile) (c : Config) :
    (takeLevel f c).analysis = c.analysis ∧ c.warnings ⊆ (takeLevel f c).warnings := by
  rw [takeLevel]
  split
  · exact ⟨rfl, fun _ h => h⟩
  · split
    · exact ⟨rfl, fun _ h => h⟩
    · exact ⟨rfl, fun _ h => List.mem_append_left _ h⟩

/-- **Exactly the entries that pass their checks are kept.** -/
theorem get?_ofFile (f : ConfigFile) (key : SettingKey) :
    (ofFile f).analysis.get? key = kept? f key := by
  have hall : key ∈ SettingKey.all := by cases key <;> decide
  have hfold := get?_foldl_takeSetting f SettingKey.all {} key
  rw [if_pos hall] at hfold
  rw [ofFile, (takeLevel_keeps f _).1, hfold]
  exact Option.or_none

theorem warningOf_mem_ofFile {e : ConfigError} (hset : f.analysis.get? key = some value)
    (hcheck : key.check value = .error e) : warningOf e ∈ (ofFile f).warnings :=
  (takeLevel_keeps f _).2
    (warningOf_mem_foldl_takeSetting hset hcheck (by cases key <;> decide) {})

end Config

/-! ## Agreement -/

/-- A run finds these choices valid exactly if the checks of single values do. -/
structure Choices.ValidAsChecked (c : Choices) : Prop where
  /-- They are valid exactly if what has to be set is there and every value passes its check. -/
  succeeds : (∃ settings, c.validate = .ok settings) ↔
    (∀ key : SettingKey, key.isRequired = true →
      ∃ value, c.get? key = some value ∧ Settings.isBlankText value = false) ∧
    ∀ key ∈ SettingKey.checked, ∀ value, c.get? key = some value → key.check value = .ok ()
  /-- Otherwise the error is about the first key that offends. -/
  fails : ∀ e, c.validate = .error e ↔
    ∃ key ∈ SettingKey.checked, (∀ k ∈ key.earlier, ∀ e', ¬ c.Offends k e') ∧ c.Offends key e

/-- What is kept of this file is what makes no choices invalid. -/
structure ConfigFile.SuppliesValid (f : ConfigFile) : Prop where
  /-- What is kept are entries of the file that pass their checks. -/
  kept : ∀ key value, (Config.ofFile f).analysis.get? key = some value ↔
    f.analysis.get? key = some value ∧ key.check value = .ok ()
  /-- An entry is left out for a reason, with a warning that gives it. -/
  dropped : ∀ key value, f.analysis.get? key = some value →
    (Config.ofFile f).analysis.get? key = none →
      ∃ e, key.check value = .error e ∧ Config.warningOf e ∈ (Config.ofFile f).warnings
  /-- Choices that are filled from the file are invalid only for a key that they set themselves, or
  for one that has to be set and is set nowhere. -/
  blames : ∀ (c : Choices) (e : ConfigError),
    (c.fill (Config.ofFile f).analysis).validate = .error e →
      ∃ key ∈ SettingKey.checked, (c.fill (Config.ofFile f).analysis).Offends key e ∧
        ((∃ value, c.get? key = some value ∧ c.Offends key e) ∨
          c.get? key = none ∧ (Config.ofFile f).analysis.get? key = none ∧
            key.isRequired = true ∧ e = .missing key)
  /-- An entry that was left out makes its key offend in all choices that set it so: they are not
  valid, and fail on this key unless an earlier one offends. -/
  rejects : ∀ key value, f.analysis.get? key = some value →
    (Config.ofFile f).analysis.get? key = none → ∀ c : Choices, c.get? key = some value →
      (∃ e, c.validate = .error e) ∧
        ∃ e, c.Offends key e ∧
          ((∀ k ∈ key.earlier, ∀ e', ¬ c.Offends k e') → c.validate = .error e)

theorem Choices.validAsChecked (c : Choices) : c.ValidAsChecked where
  succeeds := exists_validate_eq_ok_iff.trans forall_not_offends_iff
  fails _ := validate_eq_error_iff

namespace ConfigFile

variable {f : ConfigFile} {c : Choices} {key : SettingKey} {value : String}

theorem exists_check_eq_error (hset : f.analysis.get? key = some value)
    (hdropped : (Config.ofFile f).analysis.get? key = none) :
    ∃ e, key.check value = .error e := by
  cases hcheck : key.check value with
  | error e => exact ⟨e, rfl⟩
  | ok _ =>
    rw [Config.get?_ofFile, Config.kept?_eq_some_iff.2 ⟨hset, hcheck⟩] at hdropped
    cases hdropped

/-- What a file adds to choices is not to blame if they are invalid. -/
theorem blame_of_offends {e : ConfigError}
    (h : (c.fill (Config.ofFile f).analysis).Offends key e) :
    (∃ value, c.get? key = some value ∧ c.Offends key e) ∨
      c.get? key = none ∧ (Config.ofFile f).analysis.get? key = none ∧
        key.isRequired = true ∧ e = .missing key := by
  have hfill : (c.fill (Config.ofFile f).analysis).get? key =
      (c.get? key).or ((Config.ofFile f).analysis.get? key) := rfl
  cases hset : c.get? key with
  | some value =>
    rw [hset, Option.some_or, ← hset] at hfill
    exact .inl ⟨value, rfl, h.congr hfill⟩
  | none =>
    rw [hset, Option.none_or] at hfill
    have hkept : ∀ value, (Config.ofFile f).analysis.get? key = some value →
        key.check value = .ok () := by
      intro value hvalue
      rw [Config.get?_ofFile, Config.kept?_eq_some_iff] at hvalue
      exact hvalue.2
    refine .inr ⟨rfl, ?_⟩
    cases h with
    | missing hkey hblank =>
      refine ⟨Option.eq_none_iff_forall_ne_some.2 fun value hvalue => ?_, hkey, rfl⟩
      obtain ⟨e, he⟩ := SettingKey.exists_check_eq_error_of_blank hkey
        (hblank value (hfill.trans hvalue))
      rw [hkept value hvalue] at he
      cases he
    | invalid hvalue _ hcheck =>
      rw [hkept _ (hfill.symm.trans hvalue)] at hcheck
      cases hcheck

theorem suppliesValid (f : ConfigFile) : f.SuppliesValid where
  kept key value := by rw [Config.get?_ofFile, Config.kept?_eq_some_iff]
  dropped key value hset hdropped := by
    obtain ⟨e, hcheck⟩ := exists_check_eq_error hset hdropped
    exact ⟨e, hcheck, Config.warningOf_mem_ofFile hset hcheck⟩
  blames c e h := by
    obtain ⟨key, hchecked, -, hoffends⟩ := Choices.validate_eq_error_iff.1 h
    exact ⟨key, hchecked, hoffends, blame_of_offends hoffends⟩
  rejects key value hset hdropped c hc := by
    obtain ⟨e, hcheck⟩ := exists_check_eq_error hset hdropped
    have hchecked : key ∈ SettingKey.checked := by
      rw [SettingKey.mem_checked_iff]
      rintro rfl
      cases hcheck
    obtain ⟨e', hoffends⟩ := Choices.exists_offends_of_check hc hcheck
    refine ⟨?_, e', hoffends, fun hearlier => ?_⟩
    · rw [Choices.exists_validate_eq_error_iff, Choices.exists_validate_eq_ok_iff]
      exact fun h => h key hchecked e' hoffends
    · exact Choices.validate_eq_error_iff.2 ⟨key, hchecked, hearlier, hoffends⟩

end ConfigFile

/-- **A run and a configuration file agree on what is valid.** Choices are valid exactly if what has
to be set is there and every value passes its check, and otherwise the error is about the first key
for which that fails. So what is kept of a file makes no choices invalid, and what is left out of it
would have made them so. -/
theorem validate_agrees_with_check :
    (∀ c : Choices, c.ValidAsChecked) ∧ ∀ f : ConfigFile, f.SuppliesValid :=
  ⟨Choices.validAsChecked, ConfigFile.suppliesValid⟩

/-- A file with a level that is none and a number of workers. -/
def looseFile : ConfigFile where
  analysis := (({} : Choices).set .logLevel "loud").set .workerThreads "4"

/-- The level of that file is left out, and would have failed any run. -/
theorem validate_agrees_with_check_looseFile :
    looseFile.analysis.get? .logLevel = some "loud" ∧
      (Config.ofFile looseFile).analysis.get? .logLevel = none ∧
      (Config.ofFile looseFile).analysis.get? .workerThreads = some "4" ∧
      ∃ e, (looseFile.analysis.set .outputPath "report.txt").validate = .error e ∧
        (looseFile.analysis.set .outputPath "report.txt").Offends .logLevel e := by
  have hdropped : (Config.ofFile looseFile).analysis.get? .logLevel = none := by decide +kernel
  obtain ⟨-, e, hoffends, herror⟩ := (validate_agrees_with_check.2 looseFile).rejects
    .logLevel "loud" rfl hdropped (looseFile.analysis.set .outputPath "report.txt") rfl
  refine ⟨rfl, hdropped, by decide +kernel, e, herror fun k hk => ?_, hoffends⟩
  cases hk

end LogDigest
