import LogDigest.Calendar.Format
import LogDigest.Command.Directive
import LogDigest.Text.Visible

/-!
# Which events are logged

A filter is a list of directives, separated by commas. Of the directives that speak of an event the
most particular one decides, and the event is logged if it is as grave as the level of that
directive. Longer parts are more particular than shorter ones, and a field is more particular than
none. The program has no spans and looks at no values of fields, so a directive with a span or a
value speaks of no event.

A directive that cannot be read is passed over with a complaint, and where none is left only errors
are logged.

The filter comes from the environment if it has one, then from the debug flag, then from the
configuration file, and is `info` otherwise.

A logged event is a line: the time, the level, the part of the program, the message and the fields.
Texts are shown as they are, so the line may break inside of them, or in quotes.
-/

namespace LogDigest

open Text

/-- The part of the program that an event comes from. -/
def Event.origin : Event → String
  | .starting .. | .configWarning .. => "logtally"
  | .loggingReady | .logFileRefused .. => "logtally::util::logging"
  | .configAbsent .. | .configRejected .. | .configLoaded .. | .configWarned ..
  | .settingsValidated .. => "logtally::platform::config"
  | .fileWritten .. => "logtally::platform::fs"
  | .lineDiscarded .. | .textParsed .. => "logtally::core::parser"
  | .filterCompiled .. | .filterApplied .. => "logtally::core::filter"
  | .aggregated .. => "logtally::core::aggregate"
  | .exportRendered .. => "logtally::core::export"
  | .processingStarted .. | .classified .. | .processingCancelled .. | .unitsFailed ..
  | .processingComplete .. => "logtally::app::process"
  | .analysisStarted .. | .transition .. | .logRead .. | .reportWritten .. | .recordsExported ..
  | .analysisComplete .. | .analysisFailed .. | .runFinalized .. => "logtally::app::pipeline"

namespace Directive

def covers (d : Directive) (e : Event) : Bool :=
  d.span.isNone && !d.hasValue &&
    (d.part.all fun part => part.toList.isPrefixOf e.origin.toList) &&
    (d.field.all fun field => e.fieldNames.contains field)

/-- How long the part of a directive is, with none before the empty one. -/
def partSize (d : Directive) : Nat := (d.part.map fun part => part.utf8ByteSize + 1).getD 0

/-- Compares directives by how particular they are, then by their pieces. -/
def precedence (d e : Directive) : Ordering :=
  (compare d.partSize e.partSize).then <|
    (compare d.field.isSome.toNat e.field.isSome.toNat).then <|
      (compare (d.part.getD "") (e.part.getD "")).then <|
        compare (d.field.getD "") (e.field.getD "")

end Directive

/-- Directives, the later ones of which replace earlier ones for the same events. -/
structure LogFilter where
  directives : List Directive
deriving DecidableEq, Repr

namespace LogFilter

def complaint (text : List Char) (fault : DirectiveFault) : String :=
  match fault with
  | .split => "byte index is not a char boundary of `" ++ String.ofList text ++ "`"
  | fault => "ignoring `" ++ String.ofList text ++ "`: " ++ fault.message

/-- What came of the directives in a text. -/
structure Readings where
  directives : List Directive := []
  complaints : List String := []
  /-- Whether one was cut inside a character, so that the reading broke off. -/
  broken : Bool := false
deriving DecidableEq, Repr

/-- Reads directives until one is cut inside a character. -/
def readAll : List (List Char) → Readings
  | [] => {}
  | text :: rest =>
    match Directive.ofText text with
    | .ok d =>
      let r := readAll rest
      { r with directives := d :: r.directives }
    | .error .split => { complaints := [complaint text .split], broken := true }
    | .error fault =>
      let r := readAll rest
      { r with complaints := complaint text fault :: r.complaints }

/-- Reads the directives of a text. -/
def read (s : String) : Readings := readAll (nonemptyPieces (· == ',') s.toList)

/-- The filter of the directives that were read. -/
def Readings.filter (r : Readings) : LogFilter :=
  { directives := if r.directives.isEmpty then [{ verbosity := ⟨some .error⟩ }] else r.directives }

/-- The directive that decides about an event: the most particular one, of two for the same events
the later. -/
def decisive? (f : LogFilter) (e : Event) : Option Directive :=
  (f.directives.filter fun d => d.covers e).foldl
    (fun best d =>
      match best with
      | some b => if b.precedence d = .gt then some b else some d
      | none => some d)
    none

def admits (f : LogFilter) (e : Event) : Bool :=
  match f.decisive? e with
  | some d => d.verbosity.admits e.level
  | none => false

/-- The directives where nothing is said about them. -/
def defaultLevel : String := "info"

/-- The directives of a program with these sources of them. -/
def choose (environment : Option String) (debug : Bool) (configured : Option String) : Readings :=
  match environment with
  | some s => read s
  | none => if debug then read "debug" else read (configured.getD defaultLevel)

end LogFilter

/-! ## Lines -/

def EventValue.inWords : EventValue → String
  | text s => s
  | quoted s => visible s
  | number n => toString n
  | flag b => toString b

def Event.line (e : Event) (time : Timestamp) : String :=
  let fields := e.fields.map fun (name, value) => " " ++ name ++ "=" ++ value.inWords
  time.interchange ++ " " ++ e.level.label ++ " " ++ e.origin ++ ": " ++ e.message ++
    String.join fields

end LogDigest
