import LogDigest.Json.Lexer

/-!
# Reading JSON

`Json.ofText` reads a whole text as one value. `skipValue` passes over a value without building it.
Both recurse on a bound for the depth of nesting, which the length of the text provides.
-/

namespace LogDigest.Json

/-! ## Values -/

mutual

/-- Reads a value, with blanks before it. -/
def readValue (bound : Nat) (s : List Char) : Scan Json :=
  match bound with
  | 0 => .error .malformed
  | bound + 1 =>
    match skipBlanks s with
    | [] => .error .unfinished
    | c :: rest =>
      if c = 'n' then (readWord ['u', 'l', 'l'] rest).map fun rest => (.null, rest)
      else if c = 't' then (readWord ['r', 'u', 'e'] rest).map fun rest => (.bool true, rest)
      else if c = 'f' then (readWord ['a', 'l', 's', 'e'] rest).map fun rest => (.bool false, rest)
      else if c = '"' then (readString rest).map fun (v, rest) => (.string v, rest)
      else if c = '-' ∨ c.isDigit then
        (readNumber (c :: rest)).map fun (n, rest) => (.number n, rest)
      else if c = '[' then
        match skipBlanks rest with
        | ']' :: rest => .ok (.array [], rest)
        | rest => (readItems bound rest).map fun (vs, rest) => (.array vs, rest)
      else if c = '\x7b' then
        match skipBlanks rest with
        | '\x7d' :: rest => .ok (.object [], rest)
        | rest => (readMembers bound rest).map fun (ms, rest) => (.object ms, rest)
      else .error .malformed

/-- Reads the items of a list, of which there is at least one, and the closing bracket. -/
def readItems (bound : Nat) (s : List Char) : Scan (List Json) :=
  match bound with
  | 0 => .error .malformed
  | bound + 1 =>
    match readValue bound s with
    | .error e => .error e
    | .ok (v, rest) =>
      match skipBlanks rest with
      | ',' :: rest => (readItems bound rest).map fun (vs, rest) => (v :: vs, rest)
      | ']' :: rest => .ok ([v], rest)
      | [] => .error .unfinished
      | _ :: _ => .error .malformed

/-- Reads the members of an object, of which there is at least one, and the closing brace. -/
def readMembers (bound : Nat) (s : List Char) : Scan (List (String × Json)) :=
  match bound with
  | 0 => .error .malformed
  | bound + 1 =>
    match skipBlanks s with
    | [] => .error .unfinished
    | '"' :: rest =>
      match readString rest with
      | .error e => .error e
      | .ok (k, rest) =>
        match readColon rest with
        | .error e => .error e
        | .ok rest =>
          match readValue bound rest with
          | .error e => .error e
          | .ok (v, rest) =>
            match skipBlanks rest with
            | ',' :: rest => (readMembers bound rest).map fun (ms, rest) => ((k, v) :: ms, rest)
            | '\x7d' :: rest => .ok ([(k, v)], rest)
            | [] => .error .unfinished
            | _ :: _ => .error .malformed
    | _ :: _ => .error .malformed

end

/-- Reads a text that holds one value and nothing else. -/
def ofText (s : List Char) : Except Fault Json :=
  match readValue (2 * s.length + 2) s with
  | .error e => .error e
  | .ok (v, rest) => if (skipBlanks rest).isEmpty then .ok v else .error .malformed

/-! ## Passing over values -/

mutual

def skipValue (bound : Nat) (s : List Char) : Except Fault (List Char) :=
  match bound with
  | 0 => .error .malformed
  | bound + 1 =>
    match skipBlanks s with
    | [] => .error .unfinished
    | c :: rest =>
      if c = 'n' then readWord ['u', 'l', 'l'] rest
      else if c = 't' then readWord ['r', 'u', 'e'] rest
      else if c = 'f' then readWord ['a', 'l', 's', 'e'] rest
      else if c = '"' then skipString rest
      else if c = '-' ∨ c.isDigit then skipNumber (c :: rest)
      else if c = '[' then
        match skipBlanks rest with
        | ']' :: rest => .ok rest
        | rest => skipItems bound rest
      else if c = '\x7b' then
        match skipBlanks rest with
        | '\x7d' :: rest => .ok rest
        | rest => skipMembers bound rest
      else .error .malformed

def skipItems (bound : Nat) (s : List Char) : Except Fault (List Char) :=
  match bound with
  | 0 => .error .malformed
  | bound + 1 =>
    match skipValue bound s with
    | .error e => .error e
    | .ok rest =>
      match skipBlanks rest with
      | ',' :: rest => skipItems bound rest
      | ']' :: rest => .ok rest
      | [] => .error .unfinished
      | _ :: _ => .error .malformed

def skipMembers (bound : Nat) (s : List Char) : Except Fault (List Char) :=
  match bound with
  | 0 => .error .malformed
  | bound + 1 =>
    match skipBlanks s with
    | [] => .error .unfinished
    | '"' :: rest =>
      match skipString rest with
      | .error e => .error e
      | .ok rest =>
        match readColon rest with
        | .error e => .error e
        | .ok rest =>
          match skipValue bound rest with
          | .error e => .error e
          | .ok rest =>
            match skipBlanks rest with
            | ',' :: rest => skipMembers bound rest
            | '\x7d' :: rest => .ok rest
            | [] => .error .unfinished
            | _ :: _ => .error .malformed
    | _ :: _ => .error .malformed

end

def skip (s : List Char) : Except Fault (List Char) := skipValue (2 * s.length + 2) s

end LogDigest.Json
