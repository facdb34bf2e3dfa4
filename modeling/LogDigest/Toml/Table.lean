import LogDigest.Toml.Basic

/-!
# Building TOML tables

A header names a table by the keys on the way to it; a table that is not there yet is made on the
way. A table may have one header of its own, and it may come after the headers of tables inside it.
A header in double brackets adds a table to a list, and other headers speak of its last table.

A dotted key makes tables too, and may add only to tables that dotted keys made; on the way there it
passes through the last table of a list, but not through a table that has a header. Nothing adds to
a table that was written as a value.
-/

namespace LogDigest.Toml

abbrev Members := List (String × Toml)

/-- Puts a value in the place of another one, or at the end. -/
def setMember (key : String) (v : Toml) : Members → Members
  | [] => [(key, v)]
  | m :: ms => if m.1 == key then (key, v) :: ms else m :: setMember key v ms

/-- Changes the table at the end of a way. The tables that the way lacks are made with the kind
`fresh`; a way of dotted keys does not pass through a table that has a header. -/
def updateAt (fresh : TableKind) (change : TableKind → Members → Except TomlError Members) :
    List String → TableKind → Members → Except TomlError Members
  | [], kind, members => change kind members
  | key :: way, _, members =>
    let into (kind : TableKind) (inner : Members) : Except TomlError Toml :=
      (updateAt fresh change way kind inner).map (.table kind)
    let entered : Except TomlError Toml :=
      match members.lookup key with
      | none => into fresh []
      | some (.table .inline _) => .error (.noTable key)
      | some (.table kind inner) =>
        if fresh = .dotted ∧ kind = .defined then .error (.repeated key) else into kind inner
      | some (.list true items) =>
        match items.getLast? with
        | some (.table kind inner) =>
          (into kind inner).map fun last => .list true (items.dropLast ++ [last])
        | _ => .error (.noTable key)
      | some _ => .error (.noTable key)
    entered.map fun v => setMember key v members

def openTable (way : List String) (key : String) (root : Members) : Except TomlError Members :=
  updateAt .implied
    (fun _ members =>
      match members.lookup key with
      | none => .ok (setMember key (.table .defined []) members)
      | some (.table .implied inner) => .ok (setMember key (.table .defined inner) members)
      | some _ => .error (.repeated key))
    way .defined root

/-- Adds a table to the list at the end of a way. -/
def openItem (way : List String) (key : String) (root : Members) : Except TomlError Members :=
  updateAt .implied
    (fun _ members =>
      match members.lookup key with
      | none => .ok (setMember key (.list true [.table .defined []]) members)
      | some (.list true items) =>
        .ok (setMember key (.list true (items ++ [.table .defined []])) members)
      | some _ => .error (.repeated key))
    way .defined root

/-- Adds a value to a table under a dotted key, the last part of which is `key`. -/
def addDotted (way : List String) (key : String) (v : Toml) (members : Members) :
    Except TomlError Members :=
  updateAt .dotted
    (fun kind members =>
      if (decide (kind = .dotted)) = way.isEmpty then .error (.repeated key)
      else if (members.lookup key).isSome then .error (.repeated key)
      else .ok (members ++ [(key, v)]))
    way .defined members

/-- Adds a value to the table that a header opened. -/
def addUnder (header : List String) (way : List String) (key : String) (v : Toml) (root : Members) :
    Except TomlError Members :=
  updateAt .implied (fun _ members => addDotted way key v members) header .defined root

end LogDigest.Toml
