import LogDigest.Json.Lexer
import LogDigest.Toml.Basic

/-!
# TOML strings

Four forms of strings. Basic strings stand between quotes and know escapes, literal strings stand
between apostrophes and know none; both have a form for several lines, between three marks. There a
line break at the very beginning does not count, every other one is a line feed, and one or two
marks may stand anywhere, also right before the closing three. In a basic string of several lines a
backslash at a line end takes the break and all blanks behind it away.

A string is read by a machine that goes through its characters one by one.
-/

namespace LogDigest.Toml

/-- The form of a string. -/
structure StringForm where
  mark : Char
  /-- Whether it may have several lines. -/
  multiline : Bool
deriving DecidableEq, Repr

def StringForm.escapes (form : StringForm) : Bool := form.mark == '"'

/-- What a reader expects inside a string. -/
inductive StringState where
  | inside
  /-- The line feed of a line break. -/
  | lineFeed
  /-- What an escape stands for. -/
  | escape
  /-- `due` more digits of a character number that has begun as `value`. -/
  | number (due value : Nat)
  /-- A mark or anything else, after this many marks in a row. -/
  | marks (count : Nat)
  /-- The line break behind a backslash and blanks. -/
  | fold
  /-- The line feed of that line break. -/
  | foldFeed
  /-- More blanks and line breaks behind that line break. -/
  | folded
deriving DecidableEq, Repr

/-- What a character does. -/
inductive StringStep where
  /-- It adds text and leads to a state. -/
  | go (text : List Char) (next : StringState)
  | close
  | refuse (e : TomlError)
deriving DecidableEq, Repr

/-- Whether a character may stand in comments and strings. -/
def isText (c : Char) : Bool := c = '\t' || (32 ≤ c.toNat && c.toNat ≠ 127)

/-- The character that an escape letter stands for. -/
def unescape? (c : Char) : Option Char :=
  if c = 'b' then some '\x08'
  else if c = 't' then some '\t'
  else if c = 'n' then some '\n'
  else if c = 'f' then some '\x0c'
  else if c = 'r' then some '\r'
  else if c = '"' ∨ c = '\\' then some c
  else none

/-- The character of this number. -/
def charOf? (n : Nat) : Option Char :=
  if h : n.isValidChar then some (Char.ofNatAux n h) else none

namespace StringForm

/-- What a character does where any may stand. -/
def insideStep (form : StringForm) (c : Char) : StringStep :=
  if c = form.mark then if form.multiline then .go [] (.marks 1) else .close
  else if c = '\\' ∧ form.escapes then .go [] .escape
  else if c = '\n' ∧ form.multiline then .go ['\n'] .inside
  else if c = '\r' ∧ form.multiline then .go [] .lineFeed
  else if isText c then .go [c] .inside
  else .refuse (.unexpected c)

/-- What a character does behind a backslash. -/
def escapeStep (form : StringForm) (c : Char) : StringStep :=
  match unescape? c with
  | some d => .go [d] .inside
  | none =>
    if c = 'u' then .go [] (.number 4 0)
    else if c = 'U' then .go [] (.number 8 0)
    else if form.multiline ∧ (c = ' ' ∨ c = '\t') then .go [] .fold
    else if form.multiline ∧ c = '\n' then .go [] .folded
    else if form.multiline ∧ c = '\r' then .go [] .foldFeed
    else .refuse .badEscape

/-- What a character does in a state. -/
def step (form : StringForm) (state : StringState) (c : Char) : StringStep :=
  match state with
  | .inside => form.insideStep c
  | .lineFeed => if c = '\n' then .go ['\n'] .inside else .refuse (.unexpected c)
  | .escape => form.escapeStep c
  | .number due value =>
    match Text.hexValue? c with
    | none => .refuse .badEscape
    | some d =>
      if 1 < due then .go [] (.number (due - 1) (value * 16 + d))
      else
        match charOf? (value * 16 + d) with
        | some c => .go [c] .inside
        | none => .refuse .badEscape
  | .marks count =>
    if c = form.mark ∧ count < 5 then .go [] (.marks (count + 1))
    else if count < 3 then
      match form.insideStep c with
      | .go text next => .go (List.replicate count form.mark ++ text) next
      | other => other
    else .close
  | .fold =>
    if c = ' ' ∨ c = '\t' then .go [] .fold
    else if c = '\n' then .go [] .folded
    else if c = '\r' then .go [] .foldFeed
    else .refuse .badEscape
  | .foldFeed => if c = '\n' then .go [] .folded else .refuse (.unexpected c)
  | .folded =>
    if c = ' ' ∨ c = '\t' ∨ c = '\n' then .go [] .folded
    else if c = '\r' then .go [] .foldFeed
    else form.insideStep c

/-- Reads a string from a state on. The closing marks of a string of several lines are known only
by what follows, which is not consumed. -/
def readFrom (form : StringForm) : StringState → List Char → Scan (List Char)
  | .marks count, [] =>
    if count < 3 then .error .unfinished
    else .ok (List.replicate (count - 3) form.mark, [])
  | _, [] => .error .unfinished
  | state, c :: rest =>
    match form.step state c with
    | .refuse e => .error e
    | .close =>
      match state with
      | .marks count => .ok (List.replicate (count - 3) form.mark, c :: rest)
      | _ => .ok ([], rest)
    | .go text next => (form.readFrom next rest).map fun (more, rest) => (text ++ more, rest)

end StringForm

/-- Drops a line break at the beginning. -/
def dropBreak : List Char → List Char
  | '\n' :: rest => rest
  | '\r' :: '\n' :: rest => rest
  | s => s

/-- Reads a string of one line behind its opening mark. -/
def readLineString (mark : Char) (s : List Char) : Scan String :=
  (StringForm.readFrom { mark, multiline := false } .inside s).map
    fun (text, rest) => (String.ofList text, rest)

/-- Reads a string of either form behind its opening mark. -/
def readString (mark : Char) (s : List Char) : Scan String :=
  match s with
  | a :: b :: rest =>
    if a = mark ∧ b = mark then
      (StringForm.readFrom { mark, multiline := true } .inside (dropBreak rest)).map
        fun (text, rest) => (String.ofList text, rest)
    else readLineString mark s
  | _ => readLineString mark s

end LogDigest.Toml
