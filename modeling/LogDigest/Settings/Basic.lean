import LogDigest.Export.Format
import LogDigest.Filter.Selection
import LogDigest.Line.Shape
import LogDigest.Settings.Error
import LogDigest.Text.Numeral

/-!
# Settings of a run

What a run needs to know, read from a choice of settings. The least severity and the path of the
report must be set and not blank; everything else has a default. The keys are looked at in a fixed
order, and the first one that is missing or not valid is the error.

Reading a value and checking it are the same thing, so a value that passes `check` never fails a
run.
-/

namespace LogDigest

open Text

/-- What a run needs to know. -/
structure Settings where
  output : Path
  selection : FilterSettings
  shape : LineShape := .auto
  /-- The number of workers, zero for a number that suits the machine. -/
  workers : Nat := 0
  /-- Where the records go, if they go anywhere. -/
  exportTo : Option Path := none
deriving DecidableEq, Repr

/-- The most workers that may be asked for. -/
def workerLimit : Nat := 256

/-! ## Reading values -/

namespace Settings

/-- A value without the blanks around it. -/
def trimmed (value : String) : String := String.ofList (trim value.toList)

def isBlankText (value : String) : Bool := (trim value.toList).isEmpty

/-- Reads the least severity. -/
def readSeverity (value : String) : Except ConfigError Severity :=
  match Severity.ofLevel? value with
  | some s => .ok s
  | none => .error (.invalid .logLevel value "one of Debug, Info, Warning, Error")

def readPath (key : SettingKey) (value : String) : Except ConfigError Path :=
  if isBlankText value then .error (.invalid key value "a non-empty path")
  else .ok ⟨trimmed value⟩

/-- Reads the path of an export, which has to name a format. -/
def readExportPath (value : String) : Except ConfigError Path :=
  match readPath .exportPath value with
  | .error e => .error e
  | .ok path =>
    match ExportFormat.ofPath path with
    | .ok _ => .ok path
    | .error _ => .error (.invalid .exportPath value "a .json or .csv path")

/-- Reads the number of workers. -/
def readWorkers (value : String) : Except ConfigError Nat :=
  match (natural? (trim value.toList)).filter fun n => n ≤ workerLimit with
  | some n => .ok n
  | none =>
    .error (.invalid .workerThreads value s!"an integer 0-{workerLimit} (0 = auto)")

def readShape (value : String) : Except ConfigError LineShape :=
  (LineShape.ofText value).mapError fun _ =>
    .invalid .parseMode value "plain, access, combined or auto"

/-- Reads what to do with unknown levels. -/
def readPolicy (value : String) : Except ConfigError LevelPolicy :=
  (LevelPolicy.ofText value).mapError fun _ => .invalid .levelPolicy value "tolerant or strict"

/-- Reads the reading of the filter text. -/
def readConnectives (value : String) : Except ConfigError Connectives :=
  (Connectives.ofText value).mapError fun _ => .invalid .connectives value "legacy or or-of-ands"

end Settings

def SettingKey.check (key : SettingKey) (value : String) : Except ConfigError Unit :=
  match key with
  | .logLevel => (Settings.readSeverity value).map fun _ => ()
  | .outputPath => (Settings.readPath .outputPath value).map fun _ => ()
  | .filter => .ok ()
  | .parseMode => (Settings.readShape value).map fun _ => ()
  | .levelPolicy => (Settings.readPolicy value).map fun _ => ()
  | .connectives => (Settings.readConnectives value).map fun _ => ()
  | .workerThreads => (Settings.readWorkers value).map fun _ => ()
  | .exportPath => (Settings.readExportPath value).map fun _ => ()

/-! ## Reading choices -/

namespace Choices

/-- The value of a key that must be set and not blank. -/
def required (c : Choices) (key : SettingKey) : Except ConfigError String :=
  match (c.get? key).filter fun value => !Settings.isBlankText value with
  | some value => .ok value
  | none => .error (.missing key)

/-- The value of a key that need not be set. -/
def optional {α : Type} (c : Choices) (key : SettingKey) (read : String → Except ConfigError α) :
    Except ConfigError (Option α) :=
  match c.get? key with
  | some value => (read value).map some
  | none => .ok none

/-- Reads the settings of a run. -/
def validate (c : Choices) : Except ConfigError Settings := do
  let minimum ← Settings.readSeverity (← c.required .logLevel)
  let output ← Settings.readPath .outputPath (← c.required .outputPath)
  let shape ← c.optional .parseMode Settings.readShape
  let policy ← c.optional .levelPolicy Settings.readPolicy
  let connectives ← c.optional .connectives Settings.readConnectives
  let workers ← c.optional .workerThreads Settings.readWorkers
  let exportTo ← c.optional .exportPath Settings.readExportPath
  return {
    output
    selection := {
      threshold := { minimum, policy := policy.getD .tolerant }
      criteria := (c.get? .filter).getD ""
      connectives := connectives.getD .legacy }
    shape := shape.getD .auto
    workers := workers.getD 0
    exportTo }

end Choices

/-- The event about valid settings for a source. -/
def Settings.event (s : Settings) (source : Path) : Event :=
  .settingsValidated source.text s.output.text s.selection.threshold.minimum.label s.shape.label

end LogDigest
