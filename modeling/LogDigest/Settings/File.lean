import LogDigest.Event
import LogDigest.Settings.Basic
import LogDigest.Text.Utf8
import LogDigest.Toml.Reader

/-!
# The configuration file

A file with two sections: `analysis` holds settings of a run under names of their own, `logging` the
level and the file of the log. Other sections and keys are passed over. A section may also be a list
of the values in their order.

A file that cannot be read, or is no TOML of this shape, counts as empty, with a warning. Every
setting in it is checked by itself; one that is not valid is left out, with a warning.
-/

namespace LogDigest

open Text

/-! ## What a file says -/

/-- What a configuration file says. -/
structure ConfigFile where
  analysis : Choices := {}
  logLevel : Option String := none
  logFile : Option String := none

namespace ConfigFile

/-- The text of a setting: a number for the workers, a string for the others. -/
def settingText (key : SettingKey) : Toml → Except TomlError String
  | .integer n =>
    if key = .workerThreads ∧ 0 ≤ n then .ok (toString n) else .error (.wrongKind key.fileName)
  | .string s => if key = .workerThreads then .error (.wrongKind key.fileName) else .ok s
  | _ => .error (.wrongKind key.fileName)

def stringText (name : String) : Toml → Except TomlError String
  | .string s => .ok s
  | _ => .error (.wrongKind name)

/-- The values of a section by their names. A list has them in the order of the names, and a
date-time has none. -/
def sectionValues (name : String) (names : List String) :
    Option Toml → Except TomlError (List (String × Toml))
  | none | some (.moment _) => .ok []
  | some (.table _ members) => .ok members
  | some (.list _ items) => .ok (names.zip items)
  | some _ => .error (.wrongKind name)

/-- Reads the settings of a run. -/
def readChoices (values : List (String × Toml)) :
    List SettingKey → Choices → Except TomlError Choices
  | [], c => .ok c
  | key :: keys, c =>
    match values.lookup key.fileName with
    | none => readChoices values keys c
    | some v =>
      match settingText key v with
      | .ok text => readChoices values keys (c.set key text)
      | .error e => .error e

/-- Reads a string that may be absent. -/
def readString (values : List (String × Toml)) (name : String) : Except TomlError (Option String) :=
  match values.lookup name with
  | none => .ok none
  | some v => (stringText name v).map some

/-- Reads a document. -/
def ofMembers (members : Toml.Members) : Except TomlError ConfigFile := do
  let analysis ←
    sectionValues "analysis" (SettingKey.all.map SettingKey.fileName) (members.lookup "analysis")
  let logging ← sectionValues "logging" ["level", "file"] (members.lookup "logging")
  return {
    analysis := ← readChoices analysis SettingKey.all {}
    logLevel := ← readString logging "level"
    logFile := ← readString logging "file" }

/-- Reads the bytes of a file, or tells why there are none. -/
def ofBytes (path : Path) (bytes : Except IoError (List UInt8)) : Except ConfigError ConfigFile :=
  match bytes with
  | .error cause => .error (.io path cause)
  | .ok bytes =>
    match Utf8.strict? bytes with
    | none => .error (.io path .notText)
    | some text => ((Toml.ofText text).bind ofMembers).mapError (.malformed path)

end ConfigFile

/-! ## What is kept of it -/

/-- What is kept of a configuration file. -/
structure Config where
  analysis : Choices := {}
  logLevel : Option String := none
  logFile : Option String := none
  /-- What was left out. -/
  warnings : List String := []

namespace Config

/-- The levels of the log in a configuration file. -/
def logLevels : List String := ["error", "warn", "info", "debug", "trace"]

def takeSetting (f : ConfigFile) (c : Config) (key : SettingKey) : Config :=
  match f.analysis.get? key with
  | none => c
  | some value =>
    match key.check value with
    | .ok _ => { c with analysis := c.analysis.set key value }
    | .error e =>
      { c with
        warnings := c.warnings ++ ["[analysis] " ++ e.message ++ ". Ignoring this setting."] }

/-- Checks the level of the log. -/
def takeLevel (f : ConfigFile) (c : Config) : Config :=
  match f.logLevel with
  | none => c
  | some level =>
    if logLevels.contains (lower level) then { c with logLevel := some level }
    else
      { c with warnings := c.warnings ++ ["[logging] level = \"" ++ level ++
          "\" is not recognised. Valid values: error, warn, info, debug, trace. " ++
          "Using default (info)."] }

/-- Keeps what is valid. -/
def ofFile (f : ConfigFile) : Config :=
  let c := takeLevel f (SettingKey.all.foldl (takeSetting f) {})
  { c with logFile := f.logFile.filter fun name => !name.isEmpty }

/-- Keeps what is valid of a file that may be absent. -/
def load (path : Path) (bytes : Option (Except IoError (List UInt8))) : Config :=
  match bytes with
  | none => {}
  | some bytes =>
    match ConfigFile.ofBytes path bytes with
    | .ok f => ofFile f
    | .error e => { warnings := [e.message ++ ". Using defaults."] }

/-- The events about a file that may be absent. -/
def events (path : Path) (bytes : Option (Except IoError (List UInt8))) : List Event :=
  match bytes with
  | none => [.configAbsent path.text]
  | some bytes =>
    match ConfigFile.ofBytes path bytes with
    | .error e => [.configRejected (e.message ++ ". Using defaults.")]
    | .ok f =>
      let warnings := (ofFile f).warnings
      .configLoaded path.text :: if warnings.isEmpty then [] else [.configWarned warnings.length]

end Config

end LogDigest
