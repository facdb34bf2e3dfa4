import LogDigest.Command.Program
import Std.Time

/-!
# The command

The program on real files. It reads the configuration file and the log, lets the session say what
is to be written, and writes that in order. If a write fails, the session is asked again with that
answer, so what is shown and logged fits what happened.
-/

namespace LogDigest.Main

def failureOf : IO.Error → IoError
  | .noFileOrDirectory .. => .noEntry
  | .permissionDenied .. => .system "Permission denied (os error 13)"
  | e@(.inappropriateType _ code _) =>
    let number := if code < 1000 then code else 0 - code
    if number = 20 then .notADirectory
    else if number = 21 then .isADirectory
    else .system (toString e)
  | e => .system (toString e)

/-- Does something that may fail. -/
def attempt {α : Type} (act : IO α) : IO (Except IoError α) := do
  match ← act.toBaseIO with
  | .ok a => return .ok a
  | .error e => return .error (failureOf e)

def readFile (path : Path) : IO (Except IoError (List UInt8)) :=
  attempt do return (← IO.FS.readBinFile path.text).toList

def writeFile (path : Path) (bytes : List UInt8) : IO (Except IoError Unit) :=
  attempt (IO.FS.writeBinFile path.text ⟨bytes.toArray⟩)

def addLines (path : Path) (lines : List String) : IO (Except IoError Unit) :=
  attempt do
    let handle ← IO.FS.Handle.mk path.text .append
    lines.forM handle.putStrLn

def localTime : IO (Option Timestamp) := do
  let now ← Std.Time.PlainDateTime.now
  let date := Date.ofYmd? now.year now.month.toInt.toNat now.day.toInt.toNat
  let time :=
    Time.ofHms? now.hour.toInt.toNat now.minute.toInt.toNat now.second.toInt.toNat
      now.nanosecond.toInt.toNat
  return date.bind fun date => time.map fun time => { date, time }

/-- Writes files in their order, and tells the first that failed. -/
def writeAll (count : Nat) : List (Path × List UInt8) → IO (Option (Nat × IoError))
  | [] => return none
  | (path, bytes) :: rest => do
    match ← writeFile path bytes with
    | .ok _ => writeAll (count + 1) rest
    | .error e => return some (count, e)

/-- Shows how the program ended, after what else there is to say. -/
def finish (ending : Ending) (remarks : List String := []) : IO UInt32 := do
  IO.print ending.output
  (remarks ++ ending.complaint.toList).forM IO.eprintln
  return ending.exit.toUInt32

/-- Analyses on real files. -/
def analyze (session : Session) (now : Timestamp) : IO UInt32 := do
  let refused ←
    match session.config.logFile with
    | none => pure none
    | some path =>
      match ← addLines ⟨path⟩ [] with
      | .ok _ => pure none
      | .error e => pure (some e)
  let log ← readFile session.request.source
  let ask := fun (refusal? : Nat → Option IoError) =>
    session.analyze (Stages.answered now log refusal?) 0 refused
  let hoped := ask fun _ => none
  let p ←
    match ← writeAll 0 hoped.writes with
    | none => pure hoped
    | some (n, e) => pure (ask fun k => if k = n then some e else none)
  let lines := p.logged.map fun event => event.line now
  if let some path := p.logFile then
    let _ ← addLines path lines
  finish p.ending (session.complaints ++ lines)

def run (arguments : List String) : IO UInt32 := do
  let home ← IO.getEnv "HOME"
  let configHome ← IO.getEnv "XDG_CONFIG_HOME"
  let places := Places.ofEnvironment fun name =>
    if name = "HOME" then home else if name = "XDG_CONFIG_HOME" then configHome else none
  let invocation : Invocation := {
    arguments
    standardConfig := places.configFile
    logDirectives := ← IO.getEnv "RUST_LOG" }
  match Options.ofArguments arguments with
  | .error usage => finish (.ofUsage usage)
  | .ok options =>
    let contents ← readFile (Session.configPathOf invocation options)
    let isThere :=
      match contents with
      | .error .noEntry | .error .notADirectory => false
      | _ => true
    match Session.prepare invocation options contents isThere with
    | .error refusal => finish refusal.ending
    | .ok session =>
      match ← localTime with
      | some now => analyze session now
      | none => finish (.failure "the clock shows no time of the calendar")

end LogDigest.Main

def main (arguments : List String) : IO UInt32 := LogDigest.Main.run arguments
