import LogDigest.Export.Basic
import LogDigest.Line.Batch
import LogDigest.Run.Stages
import LogDigest.Settings.Basic

/-!
# Runs

An analyzer does one run after the other. A run goes through the five stages in their order and
stops at the first failure. However it ends, it is closed: a stage that was under way has failed,
no record is kept, the cancel flag is down, and the run is counted.

**Stops.** A stage stops a run by a failure or by unwinding. The state that it leaves behind is what
the run is closed from, so stages are written in `EStateM`, where a stop keeps the state.

**Journal.** Beside its result a run keeps a journal: the states it entered, what it logged, and
every read and write it asked for, in their order.

**Order of effects.** The settings are read before the source is touched. The records that are to be
exported are written out in memory before the report is saved, so an export that cannot be written
out leaves the last report as it was.
-/

namespace LogDigest

/-- What a run is asked for. -/
structure Request where
  source : Path
  choices : Choices

/-- What an analyzer keeps from run to run. -/
structure Analyzer (σ : Type) where
  store : σ
  state : RunState := .idle
  records : List Record := []
  /-- The counts of the text that was read last. -/
  stats : TextStats := {}
  /-- How many runs were closed. -/
  finalizations : Nat := 0
  /-- Whether the cancel flag is up. -/
  flag : Bool := false
  /-- The counter of identities. -/
  ids : IdCounter := {}

/-- What a run did. -/
structure Journal where
  entered : List RunState := []
  events : List Event := []
  /-- What the units of work logged. -/
  unitEvents : List Event := []
  reads : List Path := []
  /-- What it asked to write, and where. -/
  writes : List (Path × List UInt8) := []
deriving DecidableEq, Repr

/-- A run under way. -/
structure Run (σ : Type) extends Analyzer σ where
  journal : Journal := {}

/-- Why a run stops before its end. -/
inductive Stop where
  | failed (e : AnalysisError)
  | unwound (message : String)
deriving DecidableEq, Repr

/-- A part of a run. -/
abbrev Act (σ : Type) := EStateM Stop (Run σ)

namespace Run

variable {σ : Type}

/-- How an act ends, and the run that it leaves. -/
def outcome {α : Type} (act : Act σ α) (r : Run σ) : Except Stop α × Run σ :=
  match act r with
  | .ok a r => (.ok a, r)
  | .error stop r => (.error stop, r)

/-! ## Small steps -/

/-- The run with more events in its journal and its log. -/
def note (stages : Stages σ) (r : Run σ) (events : List Event) : Run σ :=
  { r with
    store := stages.log r.store events
    journal := { r.journal with events := r.journal.events ++ events } }

/-- The run with more events of units in its journal and its log. -/
def noteUnits (stages : Stages σ) (r : Run σ) (events : List Event) : Run σ :=
  { r with
    store := stages.log r.store events
    journal := { r.journal with unitEvents := r.journal.unitEvents ++ events } }

def log (stages : Stages σ) (events : List Event) : Act σ Unit :=
  modify fun r => note stages r events

def fail {α : Type} (stage : Stage) (cause : Cause) : Act σ α := throw (.failed { stage, cause })

/-- Goes into a stage. -/
def enter (stages : Stages σ) (stage : Stage) : Act σ Unit :=
  modify fun r =>
    let r := note stages r [.transition r.state.name stage.name]
    { r with
      state := .active stage
      journal := { r.journal with entered := r.journal.entered ++ [.active stage] } }

/-- The run after a call, with what the call logged and asked for. -/
def hear {ε α : Type} (stages : Stages σ) (r : Run σ) (call : Call ε α) : Run σ :=
  { note stages r call.events with flag := r.flag || call.cancels }

/-- Goes on with the result of a call. -/
def perform {ε α : Type} (stages : Stages σ) (stage : Stage) (cause : ε → Cause) (call : Call ε α) :
    Act σ α := do
  modify fun r => hear stages r call
  match call.result with
  | .returned a => return a
  | .failed e => fail stage (cause e)
  | .unwound message => throw (.unwound message)

/-- Goes on with the result of a call that cannot fail. -/
def performSafe {α : Type} (stages : Stages σ) (stage : Stage) (call : Call Empty α) : Act σ α :=
  perform stages stage (fun e : Empty => nomatch e) call

/-! ## Reading -/

def parseLine (parser : LineParser) (line : List Char) : Act σ (Call Empty (Option Record)) :=
  modifyGet fun r =>
    let (call, ids) := parser.parse line r.ids
    (call, { r with ids, flag := r.flag || call.cancels })

/-- Reads lines, the first of which has this number. What happens meanwhile is logged when all lines
are read, or before the run unwinds; `pending` are the events so far, the last one first. -/
def readLines (stages : Stages σ) (parser : LineParser) :
    Nat → (pending : List Event) → List (List Char) → Act σ (List Record)
  | _, pending, [] => do
    log stages pending.reverse
    return []
  | number, pending, line :: lines => do
    let call ← parseLine parser line
    let pending := call.events.reverse ++ pending
    match call.result with
    | .returned (some record) =>
      return record :: (← readLines stages parser (number + 1) pending lines)
    | .returned none =>
      let discarded := ({ line, entry := none : LineOutcome }.event? number).toList
      readLines stages parser (number + 1) (discarded ++ pending) lines
    | .failed e => nomatch e
    | .unwound message =>
      log stages pending.reverse
      throw (.unwound message)

/-- Fails if the path is empty. -/
def checkPath (source : Path) : Act σ Unit :=
  if source.isEmpty then fail .reading (.source .missingPath) else return

/-- Fails if the cancel flag is up. -/
def checkFlag : Act σ Unit := do
  if (← get).flag then fail .reading (.source .cancelled)

/-- Reads the text of the log. -/
def readText (stages : Stages σ) (source : Path) : Act σ (List Char) := do
  let call ← modifyGet fun r =>
    (stages.read r.store source,
      { r with journal := { r.journal with reads := r.journal.reads ++ [source] } })
  perform stages .reading (fun e => .source (.io source e)) call

/-- Reads the lines of the log and keeps its records. -/
def readRecords (stages : Stages σ) (source : Path) (parser : LineParser)
    (all : List (List Char)) : Act σ Unit := do
  let records ← readLines stages parser 1 [] all
  let stats : TextStats :=
    { lines := all.length, parsed := records.length, discarded := all.length - records.length }
  log stages [.textParsed parser.name stats.lines stats.parsed stats.discarded,
    .logRead source.text parser.name stats.parsed stats.discarded]
  modify fun r => { r with records, stats }

/-- Reads the log and keeps its records. -/
def readSource (stages : Stages σ) (source : Path) (shape : LineShape) : Act σ Unit := do
  checkPath source
  checkFlag
  let text ← readText stages source
  checkFlag
  readRecords stages source (stages.parser.getD shape.parser) (Text.lines text)

/-! ## The other stages -/

def takeRecords : Act σ (List Record) := modifyGet fun r => (r.records, { r with records := [] })

/-- Keeps the records that the settings ask for. -/
def selectRecords (stages : Stages σ) (selection : FilterSettings) : Act σ Unit := do
  let parsed ← takeRecords
  let records ← perform stages .filtering .filter (stages.select selection parsed)
  modify fun r => { r with records }

def startWorkers (stages : Stages σ) (workers : Nat) : Act σ Unit :=
  match stages.pool workers with
  | none => return
  | some cause => fail .processing (.process (.threadPool workers cause))

/-- Does the work on the records. -/
def runUnits (stages : Stages σ) (workers : Nat) : Act σ (Except ProcessError Nat) :=
  modifyGet fun r =>
    let p := processAll stages.processor (stages.schedule workers r.records) r.flag r.records
    let r := note stages r [p.opening]
    let r := noteUnits stages r p.unitEvents
    (p.result, { note stages r [p.closing] with flag := p.flag })

def processRecords (stages : Stages σ) (workers : Nat) : Act σ Unit := do
  startWorkers stages workers
  match ← runUnits stages workers with
  | .ok _ => return
  | .error e => fail .processing (.process e)

def makeReport (stages : Stages σ) : Act σ Report := do
  let summary ← performSafe stages .reporting (stages.aggregate (← get).records)
  let generatedAt ← performSafe stages .reporting stages.clock
  let body ← performSafe stages .reporting (stages.render summary generatedAt)
  return { summary, generatedAt, body }

def writeFile (stages : Stages σ) (cause : IoError → Cause) (path : Path) (bytes : List UInt8) :
    Act σ Unit := do
  let call ← modifyGet fun r =>
    let (store, call) := stages.write r.store path bytes
    (call, { r with store, journal := { r.journal with
      writes := r.journal.writes ++ [(path, bytes)] } })
  perform stages .persisting cause call

/-- Writes the records out in memory, if they are to be exported. -/
def renderExport (stages : Stages σ) (exportTo : Option Path) :
    Act σ (Option (Path × List UInt8)) := do
  match exportTo with
  | none => return none
  | some path =>
    let records := (← get).records
    match exportFor path records with
    | .error e => fail .persisting (.exported e)
    | .ok bytes =>
      log stages (exportEvents path records)
      return some (path, bytes)

def saveReport (stages : Stages σ) (output : Path) (report : Report) : Act σ Unit := do
  writeFile stages (fun e => .sink { path := output, cause := e }) output
    (Utf8.encode report.body.toList)
  log stages [.reportWritten output.text]

/-- Saves the records, if they were written out. -/
def saveExport (stages : Stages σ) (exported : Option (Path × List UInt8)) : Act σ Unit := do
  match exported with
  | none => return
  | some (path, bytes) =>
    writeFile stages (fun e => .exported (.io path e)) path bytes
    log stages [.recordsExported path.text (← get).records.length]

/-- Saves the report, and then the records. -/
def persist (stages : Stages σ) (settings : Settings) (report : Report) : Act σ Unit := do
  let exported ← renderExport stages settings.exportTo
  saveReport stages settings.output report
  saveExport stages exported

/-! ## Whole runs -/

def validate (stages : Stages σ) (request : Request) : Act σ Settings :=
  match request.choices.validate with
  | .error e => fail .reading (.config e)
  | .ok settings => do
    log stages [settings.event request.source]
    return settings

/-- Reads the settings, and then the log. -/
def readStage (stages : Stages σ) (request : Request) : Act σ Settings := do
  let settings ← validate stages request
  readSource stages request.source settings.shape
  return settings

/-- The stages after reading. -/
def laterStages (stages : Stages σ) (settings : Settings) : Act σ Report := do
  enter stages .filtering
  selectRecords stages settings.selection
  enter stages .processing
  processRecords stages settings.workers
  enter stages .reporting
  let report ← makeReport stages
  enter stages .persisting
  persist stages settings report
  return report

def stagesInOrder (stages : Stages σ) (request : Request) : Act σ Report := do
  enter stages .reading
  let settings ← readStage stages request
  laterStages stages settings

/-- The run before its first stage. -/
def begin (stages : Stages σ) (a : Analyzer σ) (source : Path) : Run σ :=
  note stages { a with state := .idle, stats := {} } [.analysisStarted source.text]

/-- The state of a run that stopped or came to its end. -/
def conclude (stages : Stages σ) (r : Run σ) : Except Stop Report → Run σ
  | .ok report => { note stages r [.analysisComplete report.summary.total] with state := .done }
  | .error (.failed e) =>
    { note stages r [.analysisFailed e.stage.label e.cause.message] with state := .failed e.stage }
  | .error (.unwound _) =>
    match r.state.stage? with
    | some stage => { r with state := .failed stage }
    | none => r

def close (stages : Stages σ) (r : Run σ) : Run σ :=
  let finalizations := r.finalizations + 1
  { note stages r [.runFinalized r.state.name finalizations] with
    records := []
    flag := false
    finalizations }

end Run

/-- How a run ended, what the analyzer keeps, and what the run did. -/
structure RunOutcome (σ : Type) where
  result : Except Stop Report
  analyzer : Analyzer σ
  journal : Journal

namespace Analyzer

variable {σ : Type}

def analyze (stages : Stages σ) (a : Analyzer σ) (request : Request) : RunOutcome σ :=
  let (result, r) :=
    Run.outcome (Run.stagesInOrder stages request) (Run.begin stages a request.source)
  let r := Run.close stages (Run.conclude stages r result)
  { result, analyzer := r.toAnalyzer, journal := r.journal }

/-- Raises the cancel flag. -/
def cancel (a : Analyzer σ) : Analyzer σ := { a with flag := true }

end Analyzer

end LogDigest
