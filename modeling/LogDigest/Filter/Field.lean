import LogDigest.Text.Blank
import LogDigest.Text.Case

/-!
# Fields of records

The names by which criteria speak of the attributes of a record. A field has one name or more; names
are compared without regard to letter case and surrounding blanks, and the first is its own.
-/

namespace LogDigest

open Text

/-- The kinds of values that a field may have. -/
inductive FieldKind where
  | text
  | integer
  | moment
  /-- An identity, on which nothing can be filtered. -/
  | identity
deriving DecidableEq, Repr

/-- The name of a kind of values. -/
def FieldKind.label : FieldKind → String
  | text => "string"
  | integer => "integer"
  | moment => "date-time"
  | identity => "RecordId"

/-- An attribute of a record. -/
inductive Field where
  | timestamp
  | level
  | message
  | sourceIp
  | request
  | statusCode
  | threadId
  | source
  | user
  | size
  | id
deriving DecidableEq, Repr

namespace Field

def all : List Field :=
  [.timestamp, .level, .message, .sourceIp, .request, .statusCode, .threadId, .source, .user, .size,
   .id]

/-- The field's own name. -/
def name : Field → String
  | timestamp => "Timestamp"
  | level => "Level"
  | message => "Message"
  | sourceIp => "IPAddress"
  | request => "Request"
  | statusCode => "StatusCode"
  | threadId => "ThreadId"
  | source => "Source"
  | user => "User"
  | size => "Size"
  | id => "Id"

/-- All names of a field, its own first. -/
def names : Field → List String
  | sourceIp => ["IPAddress", "SourceIp"]
  | f => [f.name]

def kind : Field → FieldKind
  | timestamp => .moment
  | statusCode | threadId | size => .integer
  | id => .identity
  | _ => .text

def ofName? (name : List Char) : Option Field :=
  all.find? fun f => f.names.any fun n => sameLetters n (String.ofList (trim name))

end Field

end LogDigest
