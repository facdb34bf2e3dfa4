import LogDigest.Event
import LogDigest.Pattern.Reader
import LogDigest.Text.Case

/-!
# Log directives

A directive gives a level to events: to all of them, to those of a part of the program, to those
that have a field, or to those inside a span. It is written `part[span{field=value}]=level`, and
every piece may be left out. A word alone is a level if it is the name or the number of one, and a
part otherwise; a directive without a level stands for all levels.

**Reading.** A machine goes through the text without its outer blanks, from state to state. It
counts positions in bytes and takes the pieces between two positions out of the text *with* its
outer blanks, so blanks in front shift every piece. A shifted position may fall inside a character.
Then the reading breaks off altogether, while a text that is no directive is only passed over.
-/

namespace LogDigest

open Text

/-! ## Levels -/

/-- The least grave level that is logged, or none if nothing is. -/
structure Verbosity where
  least : Option EventLevel
deriving DecidableEq, Repr

namespace Verbosity

def everything : Verbosity := ⟨some .trace⟩

def nothing : Verbosity := ⟨none⟩

def admits (v : Verbosity) (level : EventLevel) : Bool :=
  v.least.any fun least => least.weight ≤ level.weight

/-- The verbosities in the order of their numbers. -/
def all : List Verbosity := nothing :: (EventLevel.all.reverse.map fun l => ⟨some l⟩)

/-- The verbosity of this number or name. -/
def ofText? (s : List Char) : Option Verbosity :=
  match (natural? s).bind fun n => all[n]? with
  | some v => some v
  | none =>
    if sameLetters (String.ofList s) "off" then some nothing
    else
      (EventLevel.all.find? fun l => sameLetters l.label (String.ofList s)).map fun l => ⟨some l⟩

end Verbosity

/-! ## Directives -/

/-- A level for some of the events. -/
structure Directive where
  /-- The part of the program, or nothing for all of it. -/
  part : Option String := none
  /-- The span, or nothing for inside and outside of spans. -/
  span : Option String := none
  /-- The field, or nothing for events with any fields. -/
  field : Option String := none
  /-- Whether the field must have a certain value. -/
  hasValue : Bool := false
  verbosity : Verbosity := .everything
deriving DecidableEq, Repr

/-- Why a text is no directive. -/
inductive DirectiveFault where
  /-- It is written in another way. -/
  | shape
  | level
  /-- The value of its field is none. -/
  | value (fault : Pattern.PatternFault)
  /-- A piece of it would begin or end inside a character. -/
  | split
deriving DecidableEq, Repr

def DirectiveFault.message : DirectiveFault → String
  | shape => "invalid filter directive"
  | level =>
    "error parsing level filter: expected one of \"off\", \"error\", \"warn\", \"info\", " ++
      "\"debug\", \"trace\", or a number 0-5"
  | value fault => "invalid field filter: " ++ fault.message
  | split => "cut inside a character"

namespace Directive

/-! ## Pieces of a text -/

/-- The text without its first bytes. -/
def dropBytes : Nat → List Char → Except DirectiveFault (List Char)
  | 0, s => .ok s
  | _ + 1, [] => .error .split
  | n + 1, c :: s =>
    if c.utf8Size ≤ n + 1 then dropBytes (n + 1 - c.utf8Size) s else .error .split

/-- The first bytes of a text. -/
def takeBytes : Nat → List Char → Except DirectiveFault (List Char)
  | 0, _ => .ok []
  | _ + 1, [] => .error .split
  | n + 1, c :: s =>
    if c.utf8Size ≤ n + 1 then (takeBytes (n + 1 - c.utf8Size) s).map (c :: ·) else .error .split

/-- The piece of a text between two positions. -/
def piece (text : List Char) (first past : Nat) : Except DirectiveFault (List Char) := do
  takeBytes (past - first) (← dropBytes first text)

/-! ## Values of fields -/

/-- What is wrong with the value of a field, if anything: it is a number or a pattern. Only a number
with a plus sign is no pattern as well. -/
def valueFault? : List Char → Option Pattern.PatternFault
  | '+' :: s => if isDecimal s then none else Pattern.fault? ('+' :: s)
  | s => Pattern.fault? s

/-- Adds the field of this text, a name and perhaps a value behind an equals sign. -/
def withField (d : Directive) (text : List Char) : Except DirectiveFault Directive :=
  match text, pieces (· == '=') text with
  | _ :: _, [name] => .ok { d with field := some (String.ofList name) }
  | _ :: _, name :: value :: _ =>
    match valueFault? value with
    | none => .ok { d with field := some (String.ofList name), hasValue := true }
    | some fault => .error (.value fault)
  | _, _ => .error .shape

/-! ## The machine -/

/-- Where the machine is. Positions say where a piece began. -/
inductive State where
  | start
  | word
  | span (first : Nat)
  | field (first : Nat)
  | fieldEnd
  | spanEnd
  | level (first : Nat)
deriving DecidableEq, Repr

/-- Takes a character at a position. -/
def step (text : List Char) (d : Directive) (state : State) (here : Nat) (c : Char) :
    Except DirectiveFault (Directive × State) := do
  match state with
  | .start =>
    if c = '[' then return (d, .span (here + 1))
    else if c = '-' || c = ':' || c = '_' || isAlphanumeric c then return (d, .word)
    else throw .shape
  | .word =>
    if c = '=' || c = '[' then
      let part := String.ofList (← piece text 0 here)
      return ({ d with part := some part }, if c = '=' then .level (here + 1) else .span (here + 1))
    else return (d, state)
  | .span first =>
    if c = ']' then
      return ({ d with span := some (String.ofList (← piece text first here)) }, .spanEnd)
    else if c = '\x7b' then
      let name ← piece text first here
      return ({ d with span := if name.isEmpty then none else some (String.ofList name) },
        .field (here + 1))
    else return (d, state)
  | .field first =>
    if c = '\x7d' then return (← d.withField (← piece text first here), .fieldEnd)
    else return (d, state)
  | .fieldEnd => if c = ']' then return (d, .spanEnd) else throw .shape
  | .spanEnd => if c = '=' then return (d, .level (here + 1)) else throw .shape
  | .level _ => return (d, state)

/-- Comes to the end. -/
def finish (text : List Char) (d : Directive) (state : State) :
    Except DirectiveFault Directive := do
  match state with
  | .word =>
    match Verbosity.ofText? text with
    | some verbosity => return { d with verbosity }
    | none => return { d with part := some (String.ofList text) }
  | .level first =>
    match ← dropBytes first text with
    | [] => return d
    | name =>
      match Verbosity.ofText? name with
      | some verbosity => return { d with verbosity }
      | none => throw .level
  | .spanEnd => return d
  | _ => throw .shape

/-- Takes characters from a position on. -/
def readFrom (text : List Char) (d : Directive) (state : State) (here : Nat) :
    List Char → Except DirectiveFault Directive
  | [] => d.finish text state
  | c :: rest => do
    let (d, state) ← d.step text state here c
    d.readFrom text state (here + c.utf8Size) rest

def ofText (text : List Char) : Except DirectiveFault Directive :=
  ({} : Directive).readFrom text .start 0 (trim text)

end Directive

end LogDigest
