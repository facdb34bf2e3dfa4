import LogDigest.Calendar.Interchange
import LogDigest.Json.Printer
import LogDigest.Json.Reader
import LogDigest.Record.Basic
import LogDigest.Text.Visible

/-!
# Record documents

A record travels as a JSON object with eleven members, and back. Writing puts down every member, the
absent ones as null. Reading takes the members in any order; only the timestamp and the level must
be there, the rest has defaults, unknown members are passed over and repeated ones are refused. A
list of values in the order of the members is read too.

Reading goes through the text once, and the first thing wrong decides the error: a value of the
wrong kind is reported even if the text behind it is no JSON.
-/

namespace LogDigest

/-! ## Members -/

/-- The members of a record document, in their order. -/
inductive DocumentField where
  | id
  | timestamp
  | level
  | message
  | sourceIp
  | request
  | statusCode
  | threadId
  | source
  | user
  | size
deriving DecidableEq, Repr

namespace DocumentField

/-- The members in their order. -/
def all : List DocumentField :=
  [.id, .timestamp, .level, .message, .sourceIp, .request, .statusCode, .threadId, .source, .user,
   .size]

def name : DocumentField → String
  | id => "id"
  | timestamp => "timestamp"
  | level => "level"
  | message => "message"
  | sourceIp => "sourceIp"
  | request => "request"
  | statusCode => "statusCode"
  | threadId => "threadId"
  | source => "source"
  | user => "user"
  | size => "size"

def ofName? (name : String) : Option DocumentField := all.find? fun f => f.name == name

end DocumentField

/-! ## Writing -/

namespace Record

def member (r : Record) : DocumentField → Json
  | .id => .int r.id.value.toNat
  | .timestamp => .string r.timestamp.interchange
  | .level => .string r.level
  | .message => .string r.message
  | .sourceIp => .ofOption .string r.sourceIp
  | .request => .ofOption .string r.request
  | .statusCode => .int r.statusCode.toInt
  | .threadId => .ofOption (fun n => .int n.toInt) r.threadId
  | .source => .ofOption .string r.source
  | .user => .ofOption .string r.user
  | .size => .ofOption (fun n => .int n.toNat) r.size

def toJson (r : Record) : Json := .object (DocumentField.all.map fun f => (f.name, r.member f))

/-- The document of a record as text, one member a line. -/
def documentText (r : Record) : String := r.toJson.pretty

end Record

/-! ## Errors -/

/-- The kind of a value that was found where another was expected. -/
inductive Found where
  | null
  | bool (b : Bool)
  | number (n : JsonNumber)
  | string (s : String)
  | list
  | object
deriving DecidableEq, Repr

/-- The found value in words. -/
def Found.text : Found → String
  | null => "null"
  | bool b => if b then "boolean `true`" else "boolean `false`"
  | number n@(.integer _) => "integer `" ++ String.ofList n.text ++ "`"
  | number n => "floating point `" ++ String.ofList n.text ++ "`"
  | string s => "string " ++ Text.visible s
  | list => "sequence"
  | object => "map"

/-- Why a JSON text is no document of the expected shape. -/
inductive Mismatch where
  /-- A value of another kind. -/
  | wrongKind (found : Found) (expected : String)
  | outOfRange (n : Int) (expected : String)
  /-- A string that is no timestamp. -/
  | timestamp (reason : Misread)
  | missing (field : DocumentField)
  | repeated (field : DocumentField)
  /-- A list that ends before its required values. -/
  | tooShort (length : Nat)
  | unknownSeverity (name : String)
deriving DecidableEq, Repr

def Mismatch.message : Mismatch → String
  | wrongKind found expected => "invalid type: " ++ found.text ++ ", expected " ++ expected
  | outOfRange n expected => s!"invalid value: integer `{n}`, expected " ++ expected
  | timestamp reason => reason.message
  | missing field => "missing field `" ++ field.name ++ "`"
  | repeated field => "duplicate field `" ++ field.name ++ "`"
  | tooShort length => s!"invalid length {length}, expected struct RecordDocument with 11 elements"
  | unknownSeverity name =>
    "unknown variant `" ++ name ++ "`, expected one of " ++
      ", ".intercalate (Severity.all.map fun s => "`" ++ s.label ++ "`")

/-- Why a text is no document. -/
inductive DocumentError where
  | fault (f : Json.Fault)
  | mismatch (m : Mismatch)
deriving DecidableEq, Repr

/-- What was read and the rest, or why nothing was read. -/
abbrev DocumentScan (α : Type) := Except DocumentError (α × List Char)

/-! ## Reading values -/

namespace Json

/-- A lexical reader inside a document. -/
def lift {α : Type} (r : Except Fault α) : Except DocumentError α := r.mapError .fault

/-- What stands where another value was expected. The kind of a list or object shows at its
opening; any other value is read to its end. -/
def foundAt : List Char → Except DocumentError Found
  | [] => .error (.fault .unfinished)
  | c :: rest =>
    if c = 'n' then (lift (readWord ['u', 'l', 'l'] rest)).map fun _ => .null
    else if c = 't' then (lift (readWord ['r', 'u', 'e'] rest)).map fun _ => .bool true
    else if c = 'f' then (lift (readWord ['a', 'l', 's', 'e'] rest)).map fun _ => .bool false
    else if c = '"' then (lift (readString rest)).map fun (s, _) => .string s
    else if c = '-' ∨ c.isDigit then
      match readNumber (c :: rest) with
      | .error f => .error (.fault f)
      | .ok (n, _) => if n.inRange then .ok (.number n) else .error (.fault .malformed)
    else if c = '[' then .ok .list
    else if c = '\x7b' then .ok .object
    else .error (.fault .malformed)

/-- Refuses the value that stands here. -/
def refuse {α : Type} (expected : String) (s : List Char) : Except DocumentError α :=
  match foundAt s with
  | .ok found => .error (.mismatch (.wrongKind found expected))
  | .error e => .error e

def expectString (expected : String) (s : List Char) : DocumentScan String :=
  match skipBlanks s with
  | '"' :: rest => lift (readString rest)
  | s => refuse expected s

/-- Reads an integer between two bounds. -/
def expectInteger (expected : String) (low high : Int) (s : List Char) : DocumentScan Int :=
  match skipBlanks s with
  | [] => .error (.fault .unfinished)
  | c :: rest =>
    if c = '-' ∨ c.isDigit then
      match readNumber (c :: rest) with
      | .error f => .error (.fault f)
      | .ok (.integer n, rest) =>
        if low ≤ n ∧ n ≤ high then .ok (n, rest)
        else .error (.mismatch (.outOfRange n expected))
      | .ok (n, _) =>
        if n.inRange then .error (.mismatch (.wrongKind (.number n) expected))
        else .error (.fault .malformed)
    else refuse expected (c :: rest)

/-- Reads null as an absent value and anything else as a present one. -/
def expectOptional {α : Type} (read : List Char → DocumentScan α) (s : List Char) :
    DocumentScan (Option α) :=
  match skipBlanks s with
  | 'n' :: rest => (lift (readWord ['u', 'l', 'l'] rest)).map fun rest => (none, rest)
  | s => (read s).map fun (a, rest) => (some a, rest)

def expectTimestamp (s : List Char) : DocumentScan Timestamp :=
  match expectString "a formatted date and time string" s with
  | .error e => .error e
  | .ok (text, rest) =>
    match Timestamp.ofInterchange text with
    | .ok t => .ok (t, rest)
    | .error reason => .error (.mismatch (.timestamp reason))

def expectText (s : List Char) : DocumentScan String := expectString "a string" s

/-- Reads an unsigned integer of 64 bits. -/
def expectUInt64 (s : List Char) : DocumentScan UInt64 :=
  (expectInteger "u64" 0 18446744073709551615 s).map fun (n, rest) => (UInt64.ofNat n.toNat, rest)

/-- Reads a signed integer of 64 bits. -/
def expectInt64 (s : List Char) : DocumentScan Int64 :=
  (expectInteger "i64" (-9223372036854775808) 9223372036854775807 s).map
    fun (n, rest) => (Int64.ofInt n, rest)

/-- Reads a signed integer of 32 bits. -/
def expectInt32 (s : List Char) : DocumentScan Int32 :=
  (expectInteger "i32" (-2147483648) 2147483647 s).map fun (n, rest) => (Int32.ofInt n, rest)

end Json

/-! ## Reading documents -/

/-- What a document has said so far. -/
structure Document where
  id : Option UInt64 := none
  timestamp : Option Timestamp := none
  level : Option String := none
  message : String := ""
  sourceIp : Option String := none
  request : Option String := none
  statusCode : Int32 := unknownStatus
  threadId : Option Int64 := none
  source : Option String := none
  user : Option String := none
  size : Option UInt64 := none
deriving DecidableEq, Repr

namespace Document

open Json

/-- Reads the value of a member. -/
def readField (d : Document) (field : DocumentField) (s : List Char) : DocumentScan Document :=
  match field with
  | .id => (expectOptional expectUInt64 s).map fun (v, rest) => ({ d with id := v }, rest)
  | .timestamp => (expectTimestamp s).map fun (v, rest) => ({ d with timestamp := some v }, rest)
  | .level => (expectText s).map fun (v, rest) => ({ d with level := some v }, rest)
  | .message => (expectText s).map fun (v, rest) => ({ d with message := v }, rest)
  | .sourceIp => (expectOptional expectText s).map fun (v, rest) => ({ d with sourceIp := v }, rest)
  | .request => (expectOptional expectText s).map fun (v, rest) => ({ d with request := v }, rest)
  | .statusCode => (expectInt32 s).map fun (v, rest) => ({ d with statusCode := v }, rest)
  | .threadId =>
    (expectOptional expectInt64 s).map fun (v, rest) => ({ d with threadId := v }, rest)
  | .source => (expectOptional expectText s).map fun (v, rest) => ({ d with source := v }, rest)
  | .user => (expectOptional expectText s).map fun (v, rest) => ({ d with user := v }, rest)
  | .size => (expectOptional expectUInt64 s).map fun (v, rest) => ({ d with size := v }, rest)

/-- Reads a member behind the opening quote of its name. `seen` are the members there were. -/
def readMember (d : Document) (seen : List DocumentField) (s : List Char) :
    DocumentScan (Document × List DocumentField) :=
  match lift (readString s) with
  | .error e => .error e
  | .ok (name, rest) =>
    match DocumentField.ofName? name with
    | none => (lift ((readColon rest).bind skip)).map fun rest => ((d, seen), rest)
    | some field =>
      if seen.contains field then .error (.mismatch (.repeated field))
      else
        match lift (readColon rest) with
        | .error e => .error e
        | .ok rest => (d.readField field rest).map fun (d, rest) => ((d, field :: seen), rest)

/-- Reads members behind the opening quote of the next name, and the closing brace. -/
def readMembers (bound : Nat) (d : Document) (seen : List DocumentField) (s : List Char) :
    DocumentScan Document :=
  match bound with
  | 0 => .error (.fault .malformed)
  | bound + 1 =>
    match d.readMember seen s with
    | .error e => .error e
    | .ok ((d, seen), rest) =>
      match skipBlanks rest with
      | '\x7d' :: rest => .ok (d, rest)
      | ',' :: rest =>
        match skipBlanks rest with
        | '"' :: rest => readMembers bound d seen rest
        | [] => .error (.fault .unfinished)
        | _ :: _ => .error (.fault .malformed)
      | [] => .error (.fault .unfinished)
      | _ :: _ => .error (.fault .malformed)

/-- Refuses a document without one of its required members. -/
def complete (d : Document) : Except DocumentError Document :=
  if d.timestamp.isNone then .error (.mismatch (.missing .timestamp))
  else if d.level.isNone then .error (.mismatch (.missing .level))
  else .ok d

/-- Reads an object behind its opening brace. -/
def readObject (s : List Char) : DocumentScan Document :=
  match skipBlanks s with
  | '\x7d' :: rest => (complete {}).map fun d => (d, rest)
  | '"' :: rest =>
    match readMembers (rest.length + 1) {} [] rest with
    | .error e => .error e
    | .ok (d, rest) => d.complete.map fun d => (d, rest)
  | [] => .error (.fault .unfinished)
  | _ :: _ => .error (.fault .malformed)

/-- Reads the values of a list in the order of the members. `first` holds at its first value. A list
may end before a value that has a default. -/
def readItems (d : Document) (first : Bool) (count : Nat) :
    List DocumentField → List Char → DocumentScan Document
  | [], s =>
    match skipBlanks s with
    | ']' :: rest => .ok (d, rest)
    | [] => .error (.fault .unfinished)
    | _ :: _ => .error (.fault .malformed)
  | field :: fields, s =>
    let value (s : List Char) : DocumentScan Document :=
      match d.readField field s with
      | .error e => .error e
      | .ok (d, rest) => readItems d false (count + 1) fields rest
    match skipBlanks s with
    | ']' :: rest =>
      if field = .timestamp ∨ field = .level then .error (.mismatch (.tooShort count))
      else readItems d first (count + 1) fields (']' :: rest)
    | [] => .error (.fault .unfinished)
    | c :: rest =>
      if first then value (c :: rest)
      else if c = ',' then
        match skipBlanks rest with
        | ']' :: _ => .error (.fault .malformed)
        | [] => .error (.fault .unfinished)
        | rest => value rest
      else .error (.fault .malformed)

/-- Reads a text that holds one document and nothing else. -/
def ofText (text : String) : Except DocumentError Document := do
  let (d, rest) ←
    match skipBlanks text.toList with
    | '\x7b' :: rest => readObject rest
    | '[' :: rest => readItems {} true 0 DocumentField.all rest
    | s => refuse "struct RecordDocument" s
  if (skipBlanks rest).isEmpty then return d else .error (.fault .malformed)

/-- The entry of a document that has its required members. -/
def entry? (d : Document) : Option Entry :=
  match d.timestamp, d.level with
  | some timestamp, some level =>
    some { timestamp, level, message := d.message, sourceIp := d.sourceIp, request := d.request,
           statusCode := d.statusCode, threadId := d.threadId, source := d.source, user := d.user,
           size := d.size }
  | _, _ => none

end Document

namespace Record

/-- Reads the entry of a document, and its identity if it names one. -/
def readDocument (text : String) : Except DocumentError (Entry × Option UInt64) := do
  let d ← Document.ofText text
  match d.entry? with
  | some e => return (e, d.id)
  | none => .error (.mismatch (.missing .timestamp))

/-- Reads a record and gives it a fresh identity. -/
def ofJson (text : String) (c : IdCounter) : Except DocumentError (Record × IdCounter) := do
  let (e, _) ← readDocument text
  return c.mint e

/-- Reads a record and keeps the identity that the document names. -/
def ofJsonKeepingId (text : String) (c : IdCounter) :
    Except DocumentError (Record × IdCounter) := do
  let (e, id) ← readDocument text
  match id with
  | some n =>
    let (id, c) := c.adopt n
    return ({ e with id }, c)
  | none => return c.mint e

end Record

/-! ## Severities -/

namespace Severity

def ofName? (name : String) : Option Severity := all.find? fun s => s.label == name

/-- Reads a severity from JSON: its name, or an object with its name and null. -/
def ofJson (text : String) : Except DocumentError Severity := do
  let find := fun (name : String) =>
    match ofName? name with
    | some s => Except.ok s
    | none => Except.error (DocumentError.mismatch (.unknownSeverity name))
  let (s, rest) ←
    match Json.skipBlanks text.toList with
    | '"' :: rest => do
      let (name, rest) ← Json.lift (Json.readString rest)
      let s ← find name
      pure (s, rest)
    | '\x7b' :: rest => do
      let (name, rest) ← Json.lift (Json.readKey rest)
      let s ← find name
      let rest ← Json.lift (Json.readColon rest)
      let rest ←
        match Json.skipBlanks rest with
        | 'n' :: rest => Json.lift (Json.readWord ['u', 'l', 'l'] rest)
        | rest => Json.refuse "unit" rest
      match Json.skipBlanks rest with
      | '\x7d' :: rest => pure (s, rest)
      | [] => .error (.fault .unfinished)
      | _ :: _ => .error (.fault .malformed)
    | [] => .error (.fault .unfinished)
    | _ :: _ => .error (.fault .malformed)
  if (Json.skipBlanks rest).isEmpty then return s else .error (.fault .malformed)

end Severity

end LogDigest
