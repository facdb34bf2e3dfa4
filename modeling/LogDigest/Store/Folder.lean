import LogDigest.Store.IoError

/-!
# Files in folders

A tree of folders, files and devices as a flat list of places. A path is walked from the working
folder, or from the root if it opens with a slash. Every step but the last starts in a folder; a
slash at the end is a step that stays where it is. A name has at most 255 bytes and a path at most
4095, and neither holds a zero byte.

**Devices.** Some devices are always there. Most take what is written to them and give nothing when
they are read; two of them show it to the user, as output or as remarks. One has no room, and behind
one there is nothing.
-/

namespace LogDigest

open Text

/-- What takes bytes and is no file. -/
inductive Device where
  /-- Forgets what is written. -/
  | null
  /-- Has no room. -/
  | full
  | output
  | remarks
  /-- Has nothing behind it. -/
  | absent
deriving DecidableEq, Repr

/-- What stands at a place. -/
inductive Node where
  | folder
  | file (bytes : List UInt8)
  | device (d : Device)
deriving DecidableEq, Repr

/-- The names on the way from the root. -/
abbrev Place := List String

/-- The longest name, in bytes. -/
def nameLimit : Nat := 255

/-- The longest path, in bytes. -/
def pathLimit : Nat := 4095

/-- The folders and devices that are always there. -/
def systemNodes : List (Place × Node) :=
  [(["dev", "null"], .device .null), (["dev", "zero"], .device .null),
   (["dev", "random"], .device .null), (["dev", "urandom"], .device .null),
   (["dev", "stdin"], .device .null), (["dev", "full"], .device .full),
   (["dev", "tty"], .device .absent), (["dev", "stdout"], .device .output),
   (["dev", "stderr"], .device .remarks)] ++
  ["bin", "boot", "dev", "etc", "home", "lib", "media", "mnt", "opt", "proc", "root", "run", "sbin",
   "srv", "sys", "tmp", "usr", "var"].map fun name => ([name], .folder)

/-- The places that are taken, and what was shown. -/
structure Folder where
  /-- The working folder. Its name holds a zero byte, so no path spells it. -/
  working : Place := ["tmp", String.singleton (Char.ofNat 0)]
  /-- What stands where, besides what is always there. -/
  nodes : List (Place × Node) := []
  shown : List UInt8 := []
  remarked : List UInt8 := []
deriving DecidableEq, Repr

namespace Folder

/-! ## Walks -/

def node? (f : Folder) (place : Place) : Option Node :=
  if place.isPrefixOf f.working then some .folder
  else ((f.nodes ++ systemNodes).find? fun n => n.1 == place).map (·.2)

/-- One step of a walk. The piece is what stands between two slashes. -/
def step (f : Folder) (place : Place) (piece : List Char) : Except IoError Place :=
  match f.node? place with
  | none => .error .noEntry
  | some .folder =>
    if piece = [] ∨ piece = ['.'] then .ok place
    else if piece = ['.', '.'] then .ok place.dropLast
    else if nameLimit < (String.ofList piece).utf8ByteSize then .error .nameTooLong
    else .ok (place ++ [String.ofList piece])
  | some _ => .error .notADirectory

def walk (f : Folder) (place : Place) : List (List Char) → Except IoError Place
  | [] => .ok place
  | piece :: rest =>
    match f.step place piece with
    | .ok place => f.walk place rest
    | .error e => .error e

/-- Where the walk along a path begins, and its pieces. -/
def way (f : Folder) (path : Path) : Except IoError (Place × List (List Char)) :=
  let text := path.text.toList
  if text.contains (Char.ofNat 0) then .error .zeroByte
  else if path.isEmpty then .error .noEntry
  else if pathLimit < path.text.utf8ByteSize then .error .nameTooLong
  else .ok (if text.head? = some '/' then [] else f.working, pieces (· == '/') text)

def find (f : Folder) (path : Path) : Except IoError Node := do
  let (start, pieces) ← f.way path
  let place ← f.walk start pieces
  match f.node? place with
  | none => throw .noEntry
  | some node => return node

/-! ## Reading -/

/-- Reads a file. -/
def read (f : Folder) (path : Path) : Except IoError (List UInt8) := do
  match ← f.find path with
  | .folder => throw .isADirectory
  | .file bytes => return bytes
  | .device .absent => throw .noDevice
  | .device _ => return []

/-- Whether there is anything at a path. -/
def has (f : Folder) (path : Path) : Bool := (f.find path).toBool

/-! ## Writing -/

/-- The place of a file that is to be written. A path that ends in a slash names no file. -/
def target (f : Folder) (path : Path) : Except IoError Place := do
  let (start, pieces) ← f.way path
  let closed := (pieces.reverse.dropWhile List.isEmpty).reverse
  let parent ← f.walk start closed.dropLast
  let last := closed.getLast?.getD []
  let place ← f.step parent (if closed.length < pieces.length then [] else last)
  if closed.length < pieces.length ∨ f.node? place = some .folder then throw .isADirectory
  return place

def put (f : Folder) (place : Place) (node : Node) : Folder :=
  if f.nodes.any fun n => n.1 == place then
    { f with nodes := f.nodes.map fun n => if n.1 == place then (place, node) else n }
  else { f with nodes := f.nodes ++ [(place, node)] }

def remark (f : Folder) (bytes : List UInt8) : Folder := { f with remarked := f.remarked ++ bytes }

/-- Writes bytes to what stands at a place, behind the bytes that are kept of it. -/
def writeAt (f : Folder) (place : Place) (keep : List UInt8 → List UInt8) (bytes : List UInt8) :
    Except IoError Folder :=
  match f.node? place with
  | some (.device .null) => .ok f
  | some (.device .full) => if bytes.isEmpty then .ok f else .error .noSpace
  | some (.device .output) => .ok { f with shown := f.shown ++ bytes }
  | some (.device .remarks) => .ok (f.remark bytes)
  | some (.device .absent) => .error .noDevice
  | some (.file old) => .ok (f.put place (.file (keep old ++ bytes)))
  | some .folder => .error .isADirectory
  | none => .ok (f.put place (.file bytes))

/-- Writes a file in place of what was there. -/
def write (f : Folder) (path : Path) (bytes : List UInt8) : Except IoError Folder := do
  f.writeAt (← f.target path) (fun _ => []) bytes

/-- Writes at the end of a file, which is made if there is none. -/
def append (f : Folder) (path : Path) (bytes : List UInt8) : Except IoError Folder := do
  f.writeAt (← f.target path) (fun old => old) bytes

/-! ## Making folders -/

def makeOne (f : Folder) (path : Path) : Except IoError Folder := do
  let (start, pieces) ← f.way path
  let closed := (pieces.reverse.dropWhile List.isEmpty).reverse
  let last := closed.getLast?.getD []
  let place ← f.step (← f.walk start closed.dropLast) last
  if last = ['.'] ∨ last = ['.', '.'] ∨ (f.node? place).isSome then throw .alreadyThere
  return f.put place .folder

/-- Makes one folder unless it is there, and tells why if there is none then. -/
def ensureOne (f : Folder) (path : Path) : Folder × Option IoError :=
  match f.makeOne path with
  | .ok f => (f, none)
  | .error e =>
    match f.find path with
    | .ok .folder => (f, none)
    | _ => (f, some e)

/-- Makes one folder, with something done before if the folder around it is missing. What was done
stays done if the folder cannot be made then. -/
def ensureAfter (f : Folder) (path : Path) (prepare : Folder → Folder × Option IoError) :
    Folder × Option IoError :=
  match f.ensureOne path with
  | (f, some .noEntry) =>
    match prepare f with
    | (f, none) => f.ensureOne path
    | result => result
  | result => result

/-- Makes the folder with these parts, the last part first, and the folders on its way. -/
def ensureParts (f : Folder) : List PathPart → Folder × Option IoError
  | [] => (f, none)
  | part :: above =>
    f.ensureAfter (Path.ofParts (part :: above).reverse) fun f => f.ensureParts above

/-- Makes a folder, and the folders on its way. A dot at the end of the path is a step into the
folder before it, which is not made for that. -/
def makeFolder (f : Folder) (path : Path) : Folder × Option IoError :=
  if path.isEmpty then (f, none)
  else f.ensureAfter path fun f => f.ensureParts path.parts.reverse.tail

/-- Writes a file and makes the folders on its way. -/
def provide (f : Folder) (path : Path) (bytes : List UInt8) : Except IoError Folder :=
  match f.ensureParts path.parts.reverse.tail with
  | (f, none) => f.write path bytes
  | (_, some e) => .error e

/-! ## Contents -/

/-- The files inside the working folder, with their paths. -/
def files (f : Folder) : List (Path × List UInt8) :=
  f.nodes.filterMap fun (place, node) =>
    match node with
    | .file bytes =>
      if f.working.isPrefixOf place then
        some (⟨"/".intercalate (place.drop f.working.length)⟩, bytes)
      else none
    | _ => none

end Folder

end LogDigest
