import LogDigest.Store.IoError
import LogDigest.Text.Case

/-!
# Formats of exports

The extension of the path, in any letter case, decides the format. A failure keeps the path and
tells its cause; `chain` lists the texts from the failure down to its cause.
-/

namespace LogDigest

open Text

/-- Why records could not be written out. -/
inductive ExportError where
  | unsupported (path : Path)
  /-- The last bytes could not be written. -/
  | io (path : Path) (cause : IoError)
  /-- A row could not be written. -/
  | csv (path : Path) (cause : IoError)
  /-- A document could not be written. -/
  | json (path : Path) (cause : IoError)
deriving DecidableEq, Repr

namespace ExportError

/-- The failure in words. -/
def message : ExportError → String
  | unsupported path =>
    "Cannot export to '" ++ path.text ++ "': expected a .json or .csv extension"
  | io path cause => "Export I/O error '" ++ path.text ++ "': " ++ cause.message
  | csv path cause => "CSV export error '" ++ path.text ++ "': " ++ cause.message
  | json path cause => "JSON export error '" ++ path.text ++ "': " ++ cause.message

/-- The failure and its cause in words. -/
def chain (e : ExportError) : List String :=
  e.message ::
    match e with
    | unsupported _ => []
    | io _ cause | csv _ cause | json _ cause => [cause.message]

end ExportError

/-- A format of exports. -/
inductive ExportFormat where
  | json
  | csv
deriving DecidableEq, Repr

namespace ExportFormat

def label : ExportFormat → String
  | json => "Json"
  | csv => "Csv"

def ofPath (path : Path) : Except ExportError ExportFormat :=
  match path.extension?.map lower with
  | some "json" => .ok .json
  | some "csv" => .ok .csv
  | _ => .error (.unsupported path)

end ExportFormat

end LogDigest
