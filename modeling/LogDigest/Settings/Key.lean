/-!
# Keys of settings

The eight things that can be set for a run. A choice of settings is a partial map from keys to
texts; nothing about the texts is checked until a run begins. Merging two choices keeps what the
first one sets.
-/

namespace LogDigest

/-- What can be set for a run. -/
inductive SettingKey where
  | logLevel
  | outputPath
  | filter
  | parseMode
  | levelPolicy
  | connectives
  | workerThreads
  | exportPath
deriving DecidableEq, Repr

namespace SettingKey

def all : List SettingKey :=
  [.logLevel, .outputPath, .filter, .parseMode, .levelPolicy, .connectives, .workerThreads,
   .exportPath]

def name : SettingKey → String
  | logLevel => "logLevel"
  | outputPath => "outputPath"
  | filter => "filter"
  | parseMode => "parseMode"
  | levelPolicy => "levelPolicy"
  | connectives => "connectives"
  | workerThreads => "workerThreads"
  | exportPath => "exportPath"

def fileName : SettingKey → String
  | logLevel => "log_level"
  | outputPath => "output_path"
  | filter => "filter"
  | parseMode => "parse_mode"
  | levelPolicy => "level_policy"
  | connectives => "connectives"
  | workerThreads => "worker_threads"
  | exportPath => "export_path"

end SettingKey

/-- The texts that are set for some keys. -/
structure Choices where
  get? : SettingKey → Option String := fun _ => none

namespace Choices

instance : Inhabited Choices := ⟨{}⟩

def set (c : Choices) (key : SettingKey) (value : String) : Choices where
  get? k := if k = key then some value else c.get? k

def setIf (c : Choices) (key : SettingKey) : Option String → Choices
  | some value => c.set key value
  | none => c

/-- Fills the keys that are not set. -/
def fill (c defaults : Choices) : Choices where
  get? k := (c.get? k).or (defaults.get? k)

end Choices

end LogDigest
