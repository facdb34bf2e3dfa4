import LogDigest.Pattern.Sign
import LogDigest.Text.Alphanumeric

/-!
# Groups in patterns

A group stands in parentheses. Behind the opening one a question mark may say more: the name of the
group, or how it is read, or how everything behind it is read. Conditions on the text before or
behind a place are not known.
-/

namespace LogDigest.Pattern

open Text

/-- What an opening parenthesis begins. -/
inductive Opening where
  /-- A group with its mode, and its name if it has one. -/
  | group (m : Mode) (name? : Option String)
  /-- A new mode for what follows; the parenthesis is closed again. -/
  | setting (m : Mode)
deriving DecidableEq, Repr

/-! ## Names -/

/-- Whether a name may begin with this character. -/
def beginsName (c : Char) : Bool := c = '_' || isLetter c

/-- Whether a name may go on with this character. -/
def continuesName (c : Char) : Bool :=
  c = '_' || c = '.' || c = '[' || c = ']' || isAlphanumeric c

/-- Reads the name of a group and the angle behind it. -/
def readName (s : List Char) : Option (String × List Char) :=
  match s.takeWhile (· ≠ '>'), s.dropWhile (· ≠ '>') with
  | c :: cs, '>' :: rest =>
    if beginsName c && cs.all continuesName then some (String.ofList (c :: cs), rest) else none
  | _, _ => none

/-! ## Flags -/

/-- What the flags before a place say. -/
structure Flags where
  seen : List Char := []
  /-- Whether the flags are turned off from here on. -/
  off : Bool := false
  /-- Whether a minus stands directly before the place. -/
  dangling : Bool := false
  mode : Mode
deriving DecidableEq, Repr

/-- Takes one more flag, if it is one and was not there. -/
def Flags.add (f : Flags) (c : Char) : Option Flags :=
  if ['i', 'm', 's', 'U', 'u', 'R', 'x'].contains c && !f.seen.contains c then
    some
      { f with
        seen := c :: f.seen
        dangling := false
        mode :=
          { characters := if c = 'u' then !f.off else f.mode.characters
            spaced := if c = 'x' then !f.off else f.mode.spaced } }
  else none

/-- Reads flags up to a colon, behind which the group goes on, or to the closing parenthesis. -/
def readFlags (f : Flags) : List Char → Option (Opening × List Char)
  | [] => none
  | ':' :: rest => if f.dangling then none else some (.group f.mode none, rest)
  | ')' :: rest => if f.dangling || f.seen.isEmpty then none else some (.setting f.mode, rest)
  | '-' :: rest => if f.off then none else readFlags { f with off := true, dangling := true } rest
  | c :: rest =>
    match f.add c with
    | some f => readFlags f rest
    | none => none

/-! ## Openings -/

/-- Reads what stands behind an opening parenthesis, before the inside of the group. -/
def readOpening (m : Mode) (s : List Char) : Option (Opening × List Char) :=
  match m.skip s with
  | '?' :: 'P' :: '<' :: rest => named rest
  | '?' :: '<' :: '=' :: _ | '?' :: '<' :: '!' :: _ | '?' :: '=' :: _ | '?' :: '!' :: _ => none
  | '?' :: '<' :: rest => named rest
  | '?' :: rest => readFlags { mode := m } rest
  | rest => some (.group m none, rest)
where
  /-- Reads the name of the group. -/
  named (s : List Char) : Option (Opening × List Char) :=
    (readName s).map fun (name, rest) => (.group m (some name), rest)

end LogDigest.Pattern
