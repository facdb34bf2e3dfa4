import LogDigest.Settings.Key
import LogDigest.Store.IoError
import LogDigest.Toml.Basic

/-!
# Failures of the configuration

A setting that is missing or not valid, or a configuration file that cannot be read.
-/

namespace LogDigest

/-- What is wrong with the configuration. -/
inductive ConfigError where
  /-- A required key is not set, or blank. -/
  | missing (key : SettingKey)
  | invalid (key : SettingKey) (value expected : String)
  /-- The file is no TOML of the expected shape. -/
  | malformed (path : Path) (cause : TomlError)
  | io (path : Path) (cause : IoError)
deriving DecidableEq, Repr

namespace ConfigError

/-- The failure in words. -/
def message : ConfigError → String
  | missing key => "Invalid or missing '" ++ key.name ++ "' in configuration"
  | invalid key value expected =>
    "Config '" ++ key.name ++ "' = '" ++ value ++ "' is not valid. Expected: " ++ expected
  | malformed path cause => "Config parse error '" ++ path.text ++ "': " ++ cause.message
  | io path cause => "Config I/O error '" ++ path.text ++ "': " ++ cause.message

/-- The failure and its causes in words. -/
def chain (e : ConfigError) : List String :=
  e.message ::
    match e with
    | missing _ | invalid .. => []
    | malformed _ cause => [cause.message]
    | io _ cause => [cause.message]

end ConfigError

end LogDigest
