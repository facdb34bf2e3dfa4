import LogDigest.Toml.Scalar
import LogDigest.Toml.Table
import LogDigest.Toml.Text

/-!
# Reading TOML

A document is a sequence of lines: headers, keys with values, comments and blank ones. Only lists
and strings of several lines go on over line ends. A byte order mark may open the document.
-/

namespace LogDigest.Toml

/-! ## Blanks, comments and keys -/

/-- Skips spaces and tabs. -/
def skipBlanks (s : List Char) : List Char := s.dropWhile fun c => c = ' ' || c = '\t'

def skipComment (s : List Char) : List Char := s.dropWhile isText

/-- Skips blanks, comments and line breaks. -/
def skipSpace (s : List Char) : List Char :=
  go false s
where
  /-- Skips behind the sign of a comment, or outside of one. -/
  go (comment : Bool) : List Char → List Char
    | [] => []
    | '\r' :: '\n' :: rest => go false rest
    | c :: rest =>
      if c = '\n' then go false rest
      else if comment then if isText c then go true rest else c :: rest
      else if c = ' ' ∨ c = '\t' then go false rest
      else if c = '#' then go true rest
      else c :: rest

/-- Skips blanks and a comment up to the next line. -/
def endLine (s : List Char) : Except TomlError (List Char) :=
  let s :=
    match skipBlanks s with
    | '#' :: rest => skipComment rest
    | s => s
  match s with
  | [] => .ok []
  | '\n' :: rest | '\r' :: '\n' :: rest => .ok rest
  | c :: _ => .error (.unexpected c)

/-- Whether a character may stand in a key without quotes. -/
def isKeyChar (c : Char) : Bool := c.isAlphanum || c = '_' || c = '-'

def readKeyPart (s : List Char) : Scan String :=
  match s with
  | '"' :: rest => readLineString '"' rest
  | '\'' :: rest => readLineString '\'' rest
  | s =>
    match s.span isKeyChar with
    | ([], []) => .error .unfinished
    | ([], c :: _) => .error (.unexpected c)
    | (w, rest) => .ok (String.ofList w, rest)

/-- Reads a key of at most `bound` parts. -/
def readKeyParts : Nat → List Char → Scan (List String × String)
  | 0, _ => .error .tooDeep
  | bound + 1, s =>
    match readKeyPart (skipBlanks s) with
    | .error e => .error e
    | .ok (part, rest) =>
      match skipBlanks rest with
      | '.' :: rest =>
        (readKeyParts bound rest).map fun ((way, key), rest) => ((part :: way, key), rest)
      | rest => .ok (([], part), rest)

/-- Reads a key: the parts on the way and the last one. -/
def readKey (s : List Char) : Scan (List String × String) := readKeyParts depthLimit s

/-- Reads a character. -/
def expect (c : Char) : List Char → Except TomlError (List Char)
  | [] => .error .unfinished
  | d :: rest => if d = c then .ok rest else .error (.unexpected d)

/-! ## Values -/

/-- Reads a key, the equals sign and a value. -/
def readPair (value : List Char → Scan Toml) (s : List Char) :
    Scan ((List String × String) × Toml) :=
  match readKey s with
  | .error e => .error e
  | .ok (key, rest) =>
    match expect '=' rest with
    | .error e => .error e
    | .ok rest => (value (skipBlanks rest)).map fun (v, rest) => ((key, v), skipBlanks rest)

/-- Reads the values of a list behind its bracket or a comma, and the closing bracket. -/
def readItems (value : List Char → Scan Toml) : Nat → List Char → Scan (List Toml)
  | 0, _ => .error .tooDeep
  | bound + 1, s =>
    match skipSpace s with
    | ']' :: rest => .ok ([], rest)
    | s =>
      match value s with
      | .error e => .error e
      | .ok (v, rest) =>
        match skipSpace rest with
        | ',' :: rest => (readItems value bound rest).map fun (vs, rest) => (v :: vs, rest)
        | ']' :: rest => .ok ([v], rest)
        | [] => .error .unfinished
        | c :: _ => .error (.unexpected c)

/-- Reads the members of a table behind its brace or a comma, and the closing brace. -/
def readMembers (value : List Char → Scan Toml) : Nat → Members → List Char → Scan Members
  | 0, _, _ => .error .tooDeep
  | bound + 1, members, s =>
    match readPair value s with
    | .error e => .error e
    | .ok (((way, key), v), rest) =>
      match addDotted way key v members with
      | .error e => .error e
      | .ok members =>
        match rest with
        | ',' :: rest => readMembers value bound members rest
        | '\x7d' :: rest => .ok (members, rest)
        | [] => .error .unfinished
        | c :: _ => .error (.unexpected c)

/-- Reads a value in which others are nested at most `depth` deep. -/
def readValue (depth : Nat) (s : List Char) : Scan Toml :=
  match s with
  | '"' :: rest => (readString '"' rest).map fun (t, rest) => (.string t, rest)
  | '\'' :: rest => (readString '\'' rest).map fun (t, rest) => (.string t, rest)
  | '[' :: rest =>
    match depth with
    | 0 => .error .tooDeep
    | depth + 1 =>
      (readItems (readValue depth) (rest.length + 1) rest).map
        fun (vs, rest) => (.list false vs, rest)
  | '\x7b' :: rest =>
    match depth with
    | 0 => .error .tooDeep
    | depth + 1 =>
      match skipBlanks rest with
      | '\x7d' :: rest => .ok (.table .inline [], rest)
      | rest =>
        (readMembers (readValue depth) (rest.length + 1) [] rest).map
          fun (ms, rest) => (.table .inline ms, rest)
  | s => readScalar s

/-! ## Documents -/

/-- What was read of a document: its members, and the way of the last header. -/
structure Progress where
  root : Members := []
  /-- The way to the table that was opened last. -/
  header : List String := []

/-- Reads a header behind its first bracket. -/
def readHeader (p : Progress) (s : List Char) : Except TomlError (Progress × List Char) := do
  let (item, s) :=
    match s with
    | '[' :: rest => (true, rest)
    | s => (false, s)
  let ((way, key), rest) ← readKey s
  let rest ← expect ']' rest
  let rest ← if item then expect ']' rest else pure rest
  let rest ← endLine rest
  let root ← if item then openItem way key p.root else openTable way key p.root
  return ({ root, header := way ++ [key] }, rest)

/-- Reads lines up to the end. -/
def readLines : Nat → Progress → List Char → Except TomlError Members
  | 0, _, _ => .error .tooDeep
  | bound + 1, p, s =>
    match skipBlanks s with
    | [] => .ok p.root
    | '#' :: rest =>
      match endLine ('#' :: rest) with
      | .error e => .error e
      | .ok rest => readLines bound p rest
    | '\n' :: rest | '\r' :: '\n' :: rest => readLines bound p rest
    | '[' :: rest =>
      match readHeader p rest with
      | .error e => .error e
      | .ok (p, rest) => readLines bound p rest
    | s =>
      match readPair (readValue depthLimit) s with
      | .error e => .error e
      | .ok (((way, key), v), rest) =>
        match endLine rest, addUnder p.header way key v p.root with
        | .error e, _ => .error e
        | _, .error e => .error e
        | .ok rest, .ok root => readLines bound { p with root } rest

/-- Reads a document. -/
def ofText (s : List Char) : Except TomlError Members :=
  let s := if s.head? = some '\ufeff' then s.tail else s
  readLines (s.length + 1) {} s

end LogDigest.Toml
