import LogDigest.Command.Arguments
import LogDigest.Command.LogFilter
import LogDigest.Run.Analyzer
import LogDigest.Settings.File

/-!
# The program

One run from the command line. The arguments come first; then the configuration file, because it
says how to log; then the log file is opened; then the analysis runs, with the settings of the
arguments before those of the file.

A configuration file that is asked for must be readable, otherwise the program ends before anything
else. One in the standard place may be absent or broken. The program also ends early if the log
directives cannot be taken apart.
-/

namespace LogDigest

def programName : String := "logtally"

def programVersion : String := "1.0.0"

def configFileName : String := "config.toml"

/-! ## Standard places -/

/-- The standard folders of the program. -/
structure Places where
  /-- The folder of the configuration file. -/
  config : Path
  /-- The folder of data files. -/
  data : Path
deriving DecidableEq, Repr

namespace Places

/-- The standard folders under these variables of the environment. -/
def ofEnvironment (value? : String → Option String) : Places :=
  let folder (setting inHome : String) (home : String) : Path :=
    let base :=
      match value? setting with
      | some p => if p.startsWith "/" then p else home ++ inHome
      | none => home ++ inHome
    ⟨base ++ "/" ++ programName⟩
  match (value? "HOME").filter fun home => !home.isEmpty with
  | none => { config := ⟨"."⟩, data := ⟨"."⟩ }
  | some home =>
    { config := folder "XDG_CONFIG_HOME" "/.config" home
      data := folder "XDG_DATA_HOME" "/.local/share" home }

def configFile (p : Places) : Path := ⟨p.config.text ++ "/" ++ configFileName⟩

end Places

/-! ## Help -/

def helpOrder : List (ValueOption ⊕ Flag) :=
  [.inl .output, .inl .level, .inl .filter, .inl .mode, .inl .exportTo, .inr .strictLevels,
   .inr .orOfAnds, .inl .jobs, .inl .config, .inr .debug, .inr .help, .inr .version]

/-- How an option is written, and what it does. -/
def helpEntry : ValueOption ⊕ Flag → String × String
  | .inl v => (shortMark v.short? ++ "--" ++ v.long ++ " <" ++ v.long.toUpper ++ ">", v.about)
  | .inr f => (shortMark f.short? ++ "--" ++ f.long, f.about)
where
  /-- The short name before the long one, or the room for it. -/
  shortMark : Option Char → String
    | some c => String.ofList ['-', c, ',', ' ']
    | none => "    "

/-- The help text. What the options do stands in one column. -/
def helpText : String :=
  let entries := helpOrder.map helpEntry
  let width := (entries.map fun e => e.1.length).foldl max 0 + 2
  "\n".intercalate
    (["Access-log analyser: parse, filter, and summarise server log files into a report", "",
      "Usage: logtally [OPTIONS] <INPUT>", "",
      "Arguments:", "  <INPUT>  Log file to analyse", "",
      "Options:"] ++
     entries.map fun (written, about) =>
       "  " ++ written ++ String.ofList (List.replicate (width - written.length) ' ') ++ about) ++
  "\n"

/-! ## Before the analysis -/

/-- What the program is called with. -/
structure Invocation where
  arguments : List String
  /-- The path of the configuration file in the standard place. -/
  standardConfig : Path
  /-- The directives for the log in the environment. -/
  logDirectives : Option String := none

/-- What the program shows and returns. -/
structure Ending where
  exit : Nat
  output : String := ""
  complaint : Option String := none
deriving DecidableEq, Repr

namespace Ending

/-- The ending of a program that was called in the wrong way, or only to show something. -/
def ofUsage : Usage → Ending
  | .help => { exit := 0, output := helpText }
  | .version => { exit := 0, output := programName ++ " " ++ programVersion ++ "\n" }
  | mistake => { exit := 2, complaint := some ("error: " ++ mistake.message) }

/-- The ending of a program that failed. -/
def failure (message : String) : Ending :=
  { exit := 1, complaint := some ("Error: " ++ message) }

def unwound (message : String) : Ending := { exit := 101, complaint := some message }

def ofRun (choices : Choices) : Except Stop Report → Ending
  | .ok _ =>
    { exit := 0
      output := "Report successfully saved to " ++ (choices.get? .outputPath).getD "" ++ "\n" }
  | .error (.failed e) => failure e.message
  | .error (.unwound message) => unwound message

end Ending

/-- Why the program ends before the analysis. -/
inductive Refusal where
  | config (e : ConfigError)
  /-- The log directives cannot be taken apart. The last complaint says so. -/
  | directives (complaints : List String)
deriving DecidableEq, Repr

/-- The ending of a program that was refused. -/
def Refusal.ending : Refusal → Ending
  | config e => .failure e.message
  | directives complaints => .unwound ("\n".intercalate complaints)

/-- A program that is ready to analyse. -/
structure Session where
  configPath : Path
  config : Config
  debug : Bool
  complaints : List String
  filter : LogFilter
  request : Request

namespace Session

def configPathOf (i : Invocation) (o : Options) : Path := o.configPath?.getD i.standardConfig

/-- Gets ready with what reading the configuration file gave, and whether the file is there. -/
def prepare (i : Invocation) (o : Options) (contents : Except IoError (List UInt8))
    (isThere : Bool) : Except Refusal Session := do
  let configPath := configPathOf i o
  if o.configPath?.isSome then
    let _ ← (ConfigFile.ofBytes configPath contents).mapError .config
  let config := Config.load configPath (if isThere then some contents else none)
  let debug := o.has .debug
  let readings := LogFilter.choose i.logDirectives debug config.logLevel
  if readings.broken then throw (.directives readings.complaints)
  return {
    configPath
    config
    debug
    complaints := readings.complaints
    filter := readings.filter
    request := { source := o.source, choices := o.choices.fill config.analysis } }

/-- The events before the analysis. `refused` is why the log file could not be opened. -/
def openingEvents (s : Session) (refused : Option IoError) : List Event :=
  let file :=
    match s.config.logFile, refused with
    | some path, some e => [Event.logFileRefused path e.message]
    | _, _ => []
  file ++ [.loggingReady, .starting s.debug s.configPath.text] ++
    s.config.warnings.map .configWarning

/-- The lines of the log about events at a time. -/
def lines (s : Session) (now : Timestamp) (events : List Event) : List String :=
  (events.filter s.filter.admits).map fun e => e.line now

end Session

/-! ## The whole program -/

/-- What the program did. -/
structure Performance (σ : Type) where
  ending : Ending
  store : σ
  logged : List Event := []
  /-- The log file, if one was opened. -/
  logFile : Option Path := none
  /-- What it asked to write, and where. -/
  writes : List (Path × List UInt8) := []

namespace Session

/-- Analyses, after the log file was opened or refused. -/
def analyze {σ : Type} (s : Session) (stages : Stages σ) (store : σ) (refused : Option IoError) :
    Performance σ :=
  let opening := s.openingEvents refused
  let run := ({ store := stages.log store opening } : Analyzer σ).analyze stages s.request
  let events := opening ++ run.journal.events ++ run.journal.unitEvents
  { ending := .ofRun s.request.choices run.result
    store := run.analyzer.store
    logged := events.filter s.filter.admits
    logFile := if refused.isSome then none else s.config.logFile.map fun path => ⟨path⟩
    writes := run.journal.writes }

end Session

/-- Opens the log file of a session in folders. -/
def Folder.openLog (f : Folder) (path : Option String) : Folder × Option IoError :=
  match path with
  | none => (f, none)
  | some path =>
    match f.append ⟨path⟩ [] with
    | .ok f => (f, none)
    | .error e => (f, some e)

def endLines (lines : List String) : String := String.join (lines.map fun line => line ++ "\n")

/-- Shows lines as remarks and puts them into a log file. If that file shows remarks too, every line
comes twice. Lines that the file does not take are lost. -/
def Folder.logLines (f : Folder) (path? : Option Path) (lines : List String) : Folder :=
  let encoded (lines : List String) := Utf8.encode (endLines lines).toList
  if lines.isEmpty then f else
  match path? with
  | none => f.remark (encoded lines)
  | some path =>
    match f.find path with
    | .ok (.device .remarks) => f.remark (encoded (lines.flatMap fun line => [line, line]))
    | _ =>
      let f := f.remark (encoded lines)
      match f.append path (encoded lines) with
      | .ok f => f
      | .error _ => f

/-- The standard parts over files in folders. What is logged is shown, and put into the log file
unless that was refused. -/
def Session.stagesInFolder (s : Session) (now : Timestamp) (refused : Option IoError) :
    Stages Folder :=
  let path? := if refused.isSome then none else s.config.logFile.map fun path => ⟨path⟩
  { Stages.inFolder now with log := fun f events => f.logLines path? (s.lines now events) }

/-- What running the program in folders leaves behind. -/
structure Outcome where
  exit : Nat
  output : String
  /-- What the user saw as remarks: complaints about directives, the log, and what went wrong. -/
  remarks : String
  folder : Folder

/-- What is left behind when the program ends, after some complaints. -/
def Ending.outcome (ending : Ending) (complaints : List String) (f : Folder) : Outcome :=
  { exit := ending.exit
    output := String.ofList (Utf8.lossy f.shown) ++ ending.output
    remarks := endLines complaints ++ String.ofList (Utf8.lossy f.remarked) ++
      endLines ending.complaint.toList
    folder := f }

/-- Runs the program in folders. -/
def Invocation.performIn (i : Invocation) (now : Timestamp) (f : Folder) : Outcome :=
  match Options.ofArguments i.arguments with
  | .error usage => (Ending.ofUsage usage).outcome [] f
  | .ok o =>
    let configPath := Session.configPathOf i o
    match Session.prepare i o (f.read configPath) (f.has configPath) with
    | .error refusal => refusal.ending.outcome [] f
    | .ok session =>
      let (f, refused) := f.openLog session.config.logFile
      let p := session.analyze (session.stagesInFolder now refused) f refused
      p.ending.outcome session.complaints p.store

end LogDigest
