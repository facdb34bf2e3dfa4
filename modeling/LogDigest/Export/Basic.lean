import LogDigest.Event
import LogDigest.Export.Csv
import LogDigest.Export.Format
import LogDigest.Record.Document
import LogDigest.Text.Utf8

/-!
# Exports

Records written out in one of the formats: a table, or a list of their documents with one member a
line. In memory nothing can fail but the choice of the format.
-/

namespace LogDigest

def documents (records : List Record) : Json := .array (records.map Record.toJson)

def exportText (records : List Record) : ExportFormat → List Char
  | .json => (documents records).pretty.toList
  | .csv => Csv.text (Csv.rows records)

def exportBytes (records : List Record) (format : ExportFormat) : List UInt8 :=
  Utf8.encode (exportText records format)

/-- The bytes of records in the format that a path asks for. -/
def exportFor (path : Path) (records : List Record) : Except ExportError (List UInt8) :=
  (ExportFormat.ofPath path).map (exportBytes records)

def exportEvents (path : Path) (records : List Record) : List Event :=
  match exportFor path records with
  | .ok bytes => [.exportRendered path.text records.length bytes.length]
  | .error _ => []

end LogDigest
