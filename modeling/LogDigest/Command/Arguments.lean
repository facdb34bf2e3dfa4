import LogDigest.Settings.Key
import LogDigest.Store.Path
import LogDigest.Text.Numeral

/-!
# Command line arguments

One path is required, everything else is an option with a value or a flag. Short names may stand
together behind one hyphen, and a value may follow its option directly, behind an equals sign, or as
the next argument, if that does not begin with a hyphen. Behind a double hyphen everything is a
path. No option may be given twice.

Arguments are read from left to right and the first mistake counts; help and the version end the
reading where they stand.
-/

namespace LogDigest

open Text

/-- An option with a value. -/
inductive ValueOption where
  | output
  | level
  | filter
  /-- The shape of the lines. -/
  | mode
  | exportTo
  /-- The number of workers. -/
  | jobs
  | config
deriving DecidableEq, Repr

namespace ValueOption

def all : List ValueOption := [.output, .level, .filter, .mode, .exportTo, .jobs, .config]

def long : ValueOption → String
  | output => "output"
  | level => "level"
  | filter => "filter"
  | mode => "mode"
  | exportTo => "export"
  | jobs => "jobs"
  | config => "config"

def short? : ValueOption → Option Char
  | output => some 'o'
  | level => some 'l'
  | filter => some 'f'
  | mode => some 'm'
  | exportTo => none
  | jobs => some 'j'
  | config => some 'c'

def about : ValueOption → String
  | output => "Report output path (overwritten)"
  | level => "Minimum severity: Debug, Info, Warning or Error"
  | filter => "Filter criteria, e.g. \"Level=Error AND StatusCode=500\""
  | mode => "Line format: plain, access, combined or auto"
  | exportTo => "Also export the filtered records (.json or .csv)"
  | jobs => "Worker threads for the processing stage (0 = auto)"
  | config => "Path to config.toml (defaults to the platform config directory)"

end ValueOption

/-- An option without a value. -/
inductive Flag where
  /-- Fail on unknown levels. -/
  | strictLevels
  /-- Let `OR` separate groups. -/
  | orOfAnds
  | debug
  | help
  | version
deriving DecidableEq, Repr

namespace Flag

def all : List Flag := [.strictLevels, .orOfAnds, .debug, .help, .version]

def long : Flag → String
  | strictLevels => "strict-levels"
  | orOfAnds => "or-of-ands"
  | debug => "debug"
  | help => "help"
  | version => "version"

def short? : Flag → Option Char
  | strictLevels | orOfAnds => none
  | debug => some 'd'
  | help => some 'h'
  | version => some 'V'

def about : Flag → String
  | strictLevels => "Fail on level tokens that are not a known severity"
  | orOfAnds => "Treat OR as a real disjunction of AND-groups"
  | debug => "Enable debug logging (equivalent to RUST_LOG=debug)"
  | help => "Print help"
  | version => "Print version"

end Flag

/-- What the arguments ask for. -/
structure Options where
  /-- The path of the log. -/
  input : Option String := none
  values : List (ValueOption × String) := []
  flags : List Flag := []
deriving DecidableEq, Repr

/-- Why the arguments are not understood, or why there is nothing to run. -/
inductive Usage where
  /-- The path of the log is missing or empty. -/
  | noInput
  | unexpected (argument : String)
  | noValue (option : String)
  | unwantedValue (option : String)
  | repeated (option : String)
  | badValue (option value : String)
  | help
  | version
deriving DecidableEq, Repr

/-- The mistake in words. -/
def Usage.message : Usage → String
  | noInput => "a value is required for '<INPUT>'"
  | unexpected argument => "unexpected argument '" ++ argument ++ "' found"
  | noValue option => "a value is required for '--" ++ option ++ "' but none was supplied"
  | unwantedValue option => "no value is expected for '--" ++ option ++ "'"
  | repeated option => "the argument '--" ++ option ++ "' cannot be used multiple times"
  | badValue option value => "invalid value '" ++ value ++ "' for '--" ++ option ++ "'"
  | help | version => ""

namespace Options

def value? (o : Options) (option : ValueOption) : Option String := o.values.lookup option

def has (o : Options) (flag : Flag) : Bool := o.flags.contains flag

def accepts (option : ValueOption) (value : String) : Bool :=
  match option with
  | .jobs => (natural? value.toList).any fun n => n < 18446744073709551616
  | .config => !value.isEmpty
  | _ => true

def takeValue (o : Options) (option : ValueOption) (value : String) : Except Usage Options :=
  if !accepts option value then .error (.badValue option.long value)
  else if (o.value? option).isSome then .error (.repeated option.long)
  else .ok { o with values := o.values ++ [(option, value)] }

def takeFlag (o : Options) (flag : Flag) : Except Usage Options :=
  match flag with
  | .help => .error .help
  | .version => .error .version
  | flag =>
    if o.has flag then .error (.repeated flag.long) else .ok { o with flags := o.flags ++ [flag] }

def takeInput (o : Options) (path : String) : Except Usage Options :=
  match o.input with
  | some _ => .error (.unexpected path)
  | none => if path.isEmpty then .error .noInput else .ok { o with input := some path }

/-- What an argument leaves open: nothing, or the value of an option. -/
abbrev Pending := Option ValueOption

/-- Takes an argument behind its two hyphens. -/
def takeLong (o : Options) (argument : List Char) : Except Usage (Options × Pending) :=
  let (name, attached) := argument.span (· != '=')
  let name := String.ofList name
  match ValueOption.all.find? fun v => v.long == name with
  | some option =>
    match attached with
    | [] => .ok (o, some option)
    | _ :: value => (o.takeValue option (String.ofList value)).map fun o => (o, none)
  | none =>
    match Flag.all.find? fun f => f.long == name with
    | none => .error (.unexpected ("--" ++ name))
    | some flag =>
      if attached.isEmpty then (o.takeFlag flag).map fun o => (o, none)
      else .error (.unwantedValue flag.long)

/-- Takes the short names behind a hyphen. -/
def takeShorts (o : Options) : List Char → Except Usage (Options × Pending)
  | [] => .ok (o, none)
  | c :: rest =>
    match ValueOption.all.find? fun v => v.short? == some c with
    | some option =>
      match rest with
      | [] => .ok (o, some option)
      | '=' :: value | value =>
        (o.takeValue option (String.ofList value)).map fun o => (o, none)
    | none =>
      match Flag.all.find? fun f => f.short? == some c with
      | none => .error (.unexpected (String.ofList ['-', c]))
      | some flag =>
        match o.takeFlag flag with
        | .ok o => takeShorts o rest
        | .error e => .error e

/-- Whether an argument is a value or a path: it does not begin with a hyphen, or it is one. -/
def isPlain (argument : String) : Bool :=
  match argument.toList with
  | '-' :: _ :: _ => false
  | _ => true

/-- Takes an argument that is no value of the one before. -/
def take (o : Options) (argument : String) : Except Usage (Options × Pending) :=
  match argument.toList with
  | '-' :: '-' :: name => o.takeLong name
  | '-' :: c :: names => o.takeShorts (c :: names)
  | _ => (o.takeInput argument).map fun o => (o, none)

def takeInputs (o : Options) : List String → Except Usage Options
  | [] => .ok o
  | path :: paths =>
    match o.takeInput path with
    | .ok o => takeInputs o paths
    | .error e => .error e

/-- Takes arguments from left to right. -/
def takeAll (o : Options) (pending : Pending) : List String → Except Usage Options
  | [] =>
    match pending with
    | none => .ok o
    | some option => .error (.noValue option.long)
  | argument :: rest =>
    match pending with
    | some option =>
      if isPlain argument then
        match o.takeValue option argument with
        | .ok o => takeAll o none rest
        | .error e => .error e
      else .error (.noValue option.long)
    | none =>
      if argument = "--" then o.takeInputs rest
      else
        match o.take argument with
        | .ok (o, pending) => takeAll o pending rest
        | .error e => .error e

def ofArguments (arguments : List String) : Except Usage Options :=
  match takeAll {} none arguments with
  | .error e => .error e
  | .ok o => if o.input.isSome then .ok o else .error .noInput

/-- The settings that the arguments make. -/
def choices (o : Options) : Choices :=
  let jobs := (o.value? .jobs).bind fun v => (natural? v.toList).map toString
  (({} : Choices).setIf .outputPath (o.value? .output)
    |>.setIf .logLevel (o.value? .level)
    |>.setIf .filter (o.value? .filter)
    |>.setIf .parseMode (o.value? .mode)
    |>.setIf .exportPath (o.value? .exportTo)
    |>.setIf .workerThreads jobs
    |>.setIf .levelPolicy (if o.has .strictLevels then some "strict" else none)
    |>.setIf .connectives (if o.has .orOfAnds then some "or-of-ands" else none))

def source (o : Options) : Path := ⟨o.input.getD ""⟩

/-- The path of the configuration file, if one is given. -/
def configPath? (o : Options) : Option Path := (o.value? .config).map fun v => ⟨v⟩

end Options

end LogDigest
