import LogDigest.Settings.Basic

/-!
# Valid settings

What is known of settings that were read from choices: the path of an export names a format.
-/

namespace LogDigest

theorem exists_of_bind_ok {ε α β : Type} {x : Except ε α} {f : α → Except ε β} {b : β}
    (h : x >>= f = .ok b) : ∃ a, x = .ok a ∧ f a = .ok b := by
  cases x with
  | error e => cases h
  | ok a => exact ⟨a, rfl, h⟩

theorem exists_of_isOk {ε α : Type} {x : Except ε α} (h : x.isOk = true) : ∃ a, x = .ok a := by
  cases x with
  | error e => cases h
  | ok a => exact ⟨a, rfl⟩

theorem Settings.ofPath_of_readExportPath {value : String} {path : Path}
    (h : readExportPath value = .ok path) : ∃ format, ExportFormat.ofPath path = .ok format := by
  rw [readExportPath] at h
  split at h
  · cases h
  · rename_i path' _
    cases hformat : ExportFormat.ofPath path' with
    | error e => rw [hformat] at h; cases h
    | ok format =>
      rw [hformat] at h
      cases h
      exact ⟨format, hformat⟩

namespace Choices

theorem optional_of_ok {α : Type} {c : Choices} {key : SettingKey}
    {read : String → Except ConfigError α} {a : α} (h : c.optional key read = .ok (some a)) :
    ∃ value, c.get? key = some value ∧ read value = .ok a := by
  rw [optional] at h
  split at h
  · rename_i value hvalue
    refine ⟨value, hvalue, ?_⟩
    cases hread : read value with
    | error e => rw [hread] at h; cases h
    | ok b => rw [hread] at h; cases h; rfl
  · cases h

theorem optional_exportPath_of_validate {c : Choices} {settings : Settings}
    (h : c.validate = .ok settings) :
    c.optional .exportPath Settings.readExportPath = .ok settings.exportTo := by
  rw [validate] at h
  obtain ⟨level, -, h⟩ := exists_of_bind_ok h
  obtain ⟨minimum, -, h⟩ := exists_of_bind_ok h
  obtain ⟨path, -, h⟩ := exists_of_bind_ok h
  obtain ⟨output, -, h⟩ := exists_of_bind_ok h
  obtain ⟨shape, -, h⟩ := exists_of_bind_ok h
  obtain ⟨policy, -, h⟩ := exists_of_bind_ok h
  obtain ⟨connectives, -, h⟩ := exists_of_bind_ok h
  obtain ⟨workers, -, h⟩ := exists_of_bind_ok h
  obtain ⟨exportTo, hexport, h⟩ := exists_of_bind_ok h
  cases h
  exact hexport

/-- In valid settings the path of an export names a format. -/
theorem ofPath_of_validate {c : Choices} {settings : Settings} {path : Path}
    (h : c.validate = .ok settings) (hpath : settings.exportTo = some path) :
    ∃ format, ExportFormat.ofPath path = .ok format := by
  have hexport := optional_exportPath_of_validate h
  rw [hpath] at hexport
  obtain ⟨value, -, hread⟩ := optional_of_ok hexport
  exact Settings.ofPath_of_readExportPath hread

end Choices

end LogDigest
