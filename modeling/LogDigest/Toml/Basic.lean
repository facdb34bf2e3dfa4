/-!
# TOML values

The values of the configuration format. A table remembers how it came to be, because that decides
who may still add to it, and so does a list: one that grows by headers is not one that was written
as a value. Floating-point numbers and date-times are kept as they are written.
-/

namespace LogDigest

/-- How a table came to be. -/
inductive TableKind where
  /-- By its own header, or it is the document. -/
  | defined
  /-- As a part of a longer header. -/
  | implied
  /-- As a part of a dotted key. -/
  | dotted
  /-- As a value. -/
  | inline
deriving DecidableEq, Repr

/-- A TOML value. -/
inductive Toml where
  | string (s : String)
  | integer (n : Int)
  | float (text : String)
  | boolean (b : Bool)
  | moment (text : String)
  /-- A list, which either grows by headers or was written as a value. -/
  | list (grows : Bool) (items : List Toml)
  /-- Named values in the order in which they came. -/
  | table (kind : TableKind) (members : List (String × Toml))
deriving Repr

/-- Why a text is no TOML, or no TOML of the expected shape. -/
inductive TomlError where
  | unfinished
  /-- Something stands where it may not. -/
  | unexpected (c : Char)
  | unknownValue (word : String)
  /-- An escape that stands for no character. -/
  | badEscape
  | repeated (key : String)
  /-- A key is extended that is no table. -/
  | noTable (key : String)
  | tooDeep
  | wrongKind (expected : String)
deriving DecidableEq, Repr

def TomlError.message : TomlError → String
  | unfinished => "the text ends too early"
  | unexpected c => "unexpected character '" ++ c.toString ++ "'"
  | unknownValue word => "'" ++ word ++ "' is no value"
  | badEscape => "the escape stands for no character"
  | repeated key => "duplicate key '" ++ key ++ "'"
  | noTable key => "'" ++ key ++ "' is no table"
  | tooDeep => "values are nested too deeply"
  | wrongKind expected => "expected " ++ expected

namespace Toml

/-- What was read and the rest. -/
abbrev Scan (α : Type) := Except TomlError (α × List Char)

/-- How deep values may be nested, and how many parts a key may have. -/
def depthLimit : Nat := 79

end Toml

end LogDigest
