import LogDigest.Calendar.Permissive
import LogDigest.Filter.Field
import LogDigest.Record.Basic

/-!
# Criteria

A criterion is written `FIELD=VALUE` and asks for equality. Blanks around the name and the value do
not count. The value is read by the kind of the field: text as it stands, integers of 64 bits,
moments in any form of log files. A record without the attribute meets no criterion on it.

`Criterion.text` writes a criterion so that reading gives it back.
-/

namespace LogDigest

open Text

/-- Why a text is no criterion, or a record cannot be filtered. -/
inductive FilterError where
  /-- The text has no single equals sign or no name before it. -/
  | invalidCriterion (criterion : String)
  | unsupportedField (field criterion : String)
  /-- Nothing can be filtered on this field. -/
  | unsupportedKind (field : Field) (criterion : String)
  | coercion (criterion value : String) (expected : FieldKind)
  | unknownLevel (level : String) (record : RecordId)
deriving DecidableEq, Repr

namespace FilterError

def message : FilterError → String
  | invalidCriterion criterion => s!"Invalid filter criterion '{criterion}': expected FIELD=VALUE"
  | unsupportedField field criterion =>
    s!"Filtering by '{field}' is not supported (in '{criterion}')"
  | unsupportedKind field criterion =>
    "Filtering by property type " ++ field.kind.label ++ " is not supported ('" ++ field.name ++
      "' in '" ++ criterion ++ "')"
  | coercion criterion value expected =>
    "Failed to parse '" ++ value ++ "' as " ++ expected.label ++ " (in '" ++ criterion ++ "')"
  | unknownLevel level record =>
    "Record " ++ record.text ++ " has unrecognised level '" ++ level ++ "'"

end FilterError

/-- The value of a criterion. -/
inductive CriterionValue where
  | text (s : String)
  | integer (n : Int64)
  | moment (t : Timestamp)
deriving DecidableEq, Repr

/-- The demand that a field equals a value. -/
structure Criterion where
  field : Field
  value : CriterionValue
deriving DecidableEq, Repr

namespace Criterion

/-- Reads the value of a field from the trimmed text behind the equals sign. -/
def readValue (criterion : List Char) (field : Field) (value : List Char) :
    Except FilterError Criterion :=
  let refused : FilterError :=
    .coercion (String.ofList criterion) (String.ofList value) field.kind
  match field.kind with
  | .text => .ok { field, value := .text (String.ofList value) }
  | .integer =>
    match int64? value with
    | some n => .ok { field, value := .integer n }
    | none => .error refused
  | .moment =>
    match Timestamp.ofText? value with
    | some t => .ok { field, value := .moment t }
    | none => .error refused
  | .identity => .error (.unsupportedKind field (String.ofList criterion))

def ofText (text : List Char) : Except FilterError Criterion :=
  match pieces (· == '=') text with
  | [name, value] =>
    let name := trim name
    if name.isEmpty then .error (.invalidCriterion (String.ofList text))
    else
      match Field.ofName? name with
      | none => .error (.unsupportedField (String.ofList name) (String.ofList text))
      | some field => readValue text field (trim value)
  | _ => .error (.invalidCriterion (String.ofList text))

def valueText : CriterionValue → String
  | .text s => s
  | .integer n => toString n.toInt
  | .moment t => t.exact

def text (c : Criterion) : String := c.field.name ++ "=" ++ valueText c.value

def textAttribute? (e : Entry) : Field → Option String
  | .level => some e.level
  | .message => some e.message
  | .sourceIp => e.sourceIp
  | .request => e.request
  | .source => e.source
  | .user => e.user
  | _ => none

def integerAttribute? (e : Entry) : Field → Option Int
  | .statusCode => some e.statusCode.toInt
  | .threadId => e.threadId.map Int64.toInt
  | .size => e.size.map fun n => (n.toNat : Int)
  | _ => none

/-- Whether an entry has the attribute and it equals the value. -/
def holds (c : Criterion) (e : Entry) : Bool :=
  match c.value with
  | .text s => textAttribute? e c.field == some s
  | .integer n => integerAttribute? e c.field == some n.toInt
  | .moment t => c.field = .timestamp && e.timestamp = t

end Criterion

end LogDigest
