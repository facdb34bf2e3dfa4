import LogDigest.Record.Severity

/-!
# Log events

What the program tells about its own work. An event is data: one constructor per kind, with what it
tells. Its level, its message and its named fields are functions of it, so a statement about what
may appear in a log is a statement about `Event.fields`.
-/

namespace LogDigest

/-- The level of an event. -/
inductive EventLevel where
  | trace
  | debug
  | info
  | warn
  | error
deriving DecidableEq, Repr

namespace EventLevel

/-- The levels, the most talkative first. -/
def all : List EventLevel := [.trace, .debug, .info, .warn, .error]

def label : EventLevel → String
  | trace => "TRACE"
  | debug => "DEBUG"
  | info => "INFO"
  | warn => "WARN"
  | error => "ERROR"

def weight : EventLevel → Nat
  | trace => 0
  | debug => 1
  | info => 2
  | warn => 3
  | error => 4

end EventLevel

/-- The value of a field. -/
inductive EventValue where
  /-- Text that a line shows as it is. -/
  | text (s : String)
  /-- Text that a line shows in quotes. -/
  | quoted (s : String)
  | number (n : Int)
  | flag (b : Bool)
deriving DecidableEq, Repr

/-- Something that happened. -/
inductive Event where
  | loggingReady
  | logFileRefused (path error : String)
  | starting (debug : Bool) (config : String)
  | configAbsent (path : String)
  | configRejected (warning : String)
  | configLoaded (path : String)
  /-- Some entries of the configuration file are ignored. -/
  | configWarned (count : Nat)
  | configWarning (warning : String)
  | analysisStarted (source : String)
  | transition (before after : String)
  | settingsValidated (source output minimum shape : String)
  | lineDiscarded (number : Nat) (preview : String)
  | textParsed (parser : String) (lines parsed discarded : Nat)
  | logRead (file parser : String) (parsed discarded : Nat)
  | filterCompiled (criteria connectives : String) (groups : Nat)
  | filterApplied (before afterThreshold afterCriteria : Nat) (minimum policy : String)
  | processingStarted (records : Nat)
  | classified (record : Nat) (priority : Priority) (level : String) (status : Int)
  | processingCancelled (completed total : Nat)
  | unitsFailed (failed total : Nat)
  | processingComplete (processed : Nat)
  | aggregated (total levels errors warnings : Nat)
  | exportRendered (path : String) (records bytes : Nat)
  | fileWritten (path : String) (bytes : Nat)
  | reportWritten (path : String)
  | recordsExported (path : String) (records : Nat)
  | analysisComplete (records : Nat)
  | analysisFailed (stage error : String)
  | runFinalized (state : String) (finalizations : Nat)
deriving DecidableEq, Repr

namespace Event

def level : Event → EventLevel
  | starting .. | configLoaded .. | analysisStarted .. | logRead .. | recordsExported ..
  | analysisComplete .. => .info
  | logFileRefused .. | configRejected .. | configWarned .. | configWarning ..
  | processingCancelled .. | unitsFailed .. => .warn
  | analysisFailed .. => .error
  | classified _ .low .. => .trace
  | _ => .debug

def message : Event → String
  | loggingReady => "Logging initialised"
  | logFileRefused .. => "Could not open log file; logging to stderr only"
  | starting .. => "logtally starting"
  | configAbsent .. => "No config.toml found; using defaults"
  | configRejected warning => warning
  | configLoaded .. => "Loaded config.toml"
  | configWarned .. => "Config validation produced warnings"
  | configWarning .. => "Configuration warning"
  | analysisStarted .. => "Analysis started"
  | transition .. => "Pipeline transition"
  | settingsValidated .. => "Configuration validated"
  | lineDiscarded .. => "Discarded malformed line"
  | textParsed .. => "Parsing complete"
  | logRead .. => "Log read"
  | filterCompiled .. => "Compiled filter"
  | filterApplied .. => "Filter stage complete"
  | processingStarted .. => "Processing started"
  | classified .. => "Classified record"
  | processingCancelled .. => "Processing cancelled"
  | unitsFailed .. => "Processing units failed"
  | processingComplete .. => "Processing complete"
  | aggregated .. => "Aggregation complete"
  | exportRendered .. => "Export rendered"
  | fileWritten .. => "File written"
  | reportWritten .. => "Report written"
  | recordsExported .. => "Records exported"
  | analysisComplete .. => "Analysis complete"
  | analysisFailed .. => "Analysis failed"
  | runFinalized .. => "Run finalized"

def fields : Event → List (String × EventValue)
  | loggingReady => [("app", .quoted "logtally"), ("version", .quoted "1.0.0")]
  | logFileRefused path error => [("path", .quoted path), ("error", .text error)]
  | starting debug config =>
    [("version", .quoted "1.0.0"), ("debug", .flag debug), ("config", .text config)]
  | configAbsent path => [("path", .text path)]
  | configRejected _ => []
  | configLoaded path => [("path", .text path)]
  | configWarned count => [("count", .number count)]
  | configWarning warning => [("warning", .text warning)]
  | analysisStarted source => [("source", .text source)]
  | transition before after => [("from", .text before), ("to", .text after)]
  | settingsValidated source output minimum shape =>
    [("source", .text source), ("output", .text output), ("minimum", .text minimum),
     ("parse_mode", .text shape)]
  | lineDiscarded number preview => [("line", .number number), ("preview", .quoted preview)]
  | textParsed parser lines parsed discarded =>
    [("parser", .quoted parser), ("lines", .number lines), ("parsed", .number parsed),
     ("discarded", .number discarded)]
  | logRead file parser parsed discarded =>
    [("file", .text file), ("parser", .quoted parser), ("parsed", .number parsed),
     ("discarded", .number discarded)]
  | filterCompiled criteria connectives groups =>
    [("criteria", .quoted criteria), ("connectives", .quoted connectives),
     ("groups", .number groups)]
  | filterApplied before afterThreshold afterCriteria minimum policy =>
    [("before", .number before), ("after_threshold", .number afterThreshold),
     ("after_criteria", .number afterCriteria), ("minimum", .text minimum),
     ("policy", .quoted policy)]
  | processingStarted records => [("records", .number records)]
  | classified record .low _ _ =>
    [("record", .number record), ("priority", .quoted Priority.low.label)]
  | classified record priority level status =>
    [("record", .number record), ("priority", .quoted priority.label), ("level", .quoted level),
     ("status", .number status)]
  | processingCancelled completed total =>
    [("completed", .number completed), ("total", .number total)]
  | unitsFailed failed total => [("failed", .number failed), ("total", .number total)]
  | processingComplete processed => [("processed", .number processed)]
  | aggregated total levels errors warnings =>
    [("total", .number total), ("levels", .number levels), ("errors", .number errors),
     ("warnings", .number warnings)]
  | exportRendered path records bytes =>
    [("path", .text path), ("records", .number records), ("bytes", .number bytes)]
  | fileWritten path bytes => [("path", .text path), ("bytes", .number bytes)]
  | reportWritten path => [("path", .text path)]
  | recordsExported path records => [("path", .text path), ("records", .number records)]
  | analysisComplete records => [("records", .number records)]
  | analysisFailed stage error => [("stage", .text stage), ("error", .text error)]
  | runFinalized state finalizations =>
    [("state", .text state), ("finalizations", .number finalizations)]

/-- The names of the fields whose values are measured and differ from run to run. -/
def measured : Event → List String
  | processingStarted .. => ["threads"]
  | processingComplete .. => ["elapsed_ms"]
  | _ => []

/-- The names of all fields. The message is one of them. -/
def fieldNames (e : Event) : List String := "message" :: e.fields.map (·.1) ++ e.measured

end Event

end LogDigest
