import LogDigest.Command.Program
import LogDigest.Proofs.Arguments
import LogDigest.Proofs.Validation

/-!
# The command line comes before the configuration file

The settings of a run are made key by key: what the arguments give, else what the configuration file
supplies, else nothing (`Invocation.CommandLineFirst`, `Invocation.command_line_before_file`).

**The file.** It supplies the entries that pass their checks, if it is there and can be read as a
configuration (`Config.Supplies`). A run is asked for the same whenever the file supplies the same
for the keys that the arguments leave open. So an entry that is not valid or that the arguments
override, and a standard file that is broken, make no difference (`Session.Alike`).

**Any order.** Setting a key and filling one that is not set each touch one key only, and what was
set stays. So settings may be made in any order from what is given and what is supplied
(`Choices.foldl_apply_eq`).

**The program.** A session depends on the configuration file only through what is kept of it
(`Session.ready`). A file that was asked for and cannot be read ends the program before anything is
opened; otherwise the exit is the one of the run.
-/

namespace LogDigest

/-! ## Any order -/

/-- A step by which choices are made. -/
inductive ChoiceStep where
  | set (key : SettingKey) (value : String)
  /-- Sets a key unless it is set. -/
  | fill (key : SettingKey) (value : String)
deriving DecidableEq, Repr

def ChoiceStep.apply (c : Choices) : ChoiceStep → Choices
  | .set key value => c.set key value
  | .fill key value => c.fill (({} : Choices).set key value)

namespace Choices

variable {c : Choices} {key k : SettingKey} {value v : String} {steps : List ChoiceStep}

theorem get?_apply_set (c : Choices) (key : SettingKey) (value : String) (k : SettingKey) :
    (ChoiceStep.apply c (.set key value)).get? k = if k = key then some value else c.get? k := rfl

theorem get?_apply_fill (c : Choices) (key : SettingKey) (value : String) (k : SettingKey) :
    (ChoiceStep.apply c (.fill key value)).get? k =
      (c.get? k).or (if k = key then some value else none) := rfl

/-- What is set stays, unless something else is set. -/
theorem get?_foldl_apply_of_get? (hget : c.get? key = some value)
    (hset : ∀ v, .set key v ∈ steps → v = value) :
    (steps.foldl ChoiceStep.apply c).get? key = some value := by
  induction steps generalizing c with
  | nil => exact hget
  | cons step steps ih =>
    refine ih ?_ fun v hv => hset v (List.mem_cons_of_mem step hv)
    cases step with
    | set k v =>
      rw [get?_apply_set]
      split
      · rename_i hk
        subst hk
        rw [hset v List.mem_cons_self]
      · exact hget
    | fill k v => rw [get?_apply_fill, hget, Option.some_or]

theorem get?_foldl_apply_of_set (hmem : .set key value ∈ steps)
    (hset : ∀ v, .set key v ∈ steps → v = value) :
    (steps.foldl ChoiceStep.apply c).get? key = some value := by
  induction steps generalizing c with
  | nil => cases hmem
  | cons step steps ih =>
    have hrest : ∀ v, .set key v ∈ steps → v = value := fun v hv =>
      hset v (List.mem_cons_of_mem step hv)
    rcases List.mem_cons.1 hmem with rfl | hmem
    · rw [List.foldl_cons]
      exact get?_foldl_apply_of_get? (by rw [get?_apply_set, if_pos rfl]) hrest
    · exact ih hmem hrest

theorem get?_foldl_apply_of_fill (hget : c.get? key = none) (hset : ∀ v, .set key v ∉ steps)
    (hmem : .fill key value ∈ steps) (hfill : ∀ v, .fill key v ∈ steps → v = value) :
    (steps.foldl ChoiceStep.apply c).get? key = some value := by
  induction steps generalizing c with
  | nil => cases hmem
  | cons step steps ih =>
    have hrest : ∀ v, .set key v ∉ steps := fun v hv => hset v (List.mem_cons_of_mem step hv)
    have hothers : ∀ v, .fill key v ∈ steps → v = value := fun v hv =>
      hfill v (List.mem_cons_of_mem step hv)
    by_cases hstep : step = .fill key value
    · subst hstep
      rw [List.foldl_cons]
      refine get?_foldl_apply_of_get? ?_ fun v hv => absurd hv (hrest v)
      rw [get?_apply_fill, hget, if_pos rfl, Option.none_or]
    · have hmem : .fill key value ∈ steps :=
        (List.mem_cons.1 hmem).resolve_left fun h => hstep h.symm
      refine ih ?_ hrest hmem hothers
      cases step with
      | set k v =>
        have hk : key ≠ k := by
          rintro rfl
          exact hset v List.mem_cons_self
        rw [get?_apply_set, if_neg hk, hget]
      | fill k v =>
        have hk : key ≠ k := by
          rintro rfl
          exact hstep (by rw [hfill v List.mem_cons_self])
        rw [get?_apply_fill, if_neg hk, hget, Option.none_or]

theorem get?_foldl_apply_of_neither (hget : c.get? key = none) (hset : ∀ v, .set key v ∉ steps)
    (hfill : ∀ v, .fill key v ∉ steps) : (steps.foldl ChoiceStep.apply c).get? key = none := by
  induction steps generalizing c with
  | nil => exact hget
  | cons step steps ih =>
    refine ih ?_ (fun v hv => hset v (List.mem_cons_of_mem step hv))
      fun v hv => hfill v (List.mem_cons_of_mem step hv)
    cases step with
    | set k v =>
      have hk : key ≠ k := by
        rintro rfl
        exact hset v List.mem_cons_self
      rw [get?_apply_set, if_neg hk, hget]
    | fill k v =>
      have hk : key ≠ k := by
        rintro rfl
        exact hfill v List.mem_cons_self
      rw [get?_apply_fill, if_neg hk, hget, Option.none_or]

/-- **The order does not matter.** Setting all that one choice sets and filling in all that another
one sets, in any order and any number of times, fills the first from the second. -/
theorem foldl_apply_eq {c d : Choices} {steps : List ChoiceStep}
    (hset : ∀ key value, .set key value ∈ steps ↔ c.get? key = some value)
    (hfill : ∀ key value, .fill key value ∈ steps ↔ d.get? key = some value) :
    steps.foldl ChoiceStep.apply {} = c.fill d := by
  refine ext fun key => ?_
  have hget : (c.fill d).get? key = (c.get? key).or (d.get? key) := rfl
  rw [hget]
  cases hc : c.get? key with
  | some value =>
    refine get?_foldl_apply_of_set ((hset key value).2 hc) fun v hv => ?_
    rw [hset, hc] at hv
    exact (Option.some.inj hv).symm
  | none =>
    have hunset : ∀ v, .set key v ∉ steps := fun v hv => by
      rw [hset, hc] at hv
      cases hv
    cases hd : d.get? key with
    | some value =>
      refine get?_foldl_apply_of_fill rfl hunset ((hfill key value).2 hd) fun v hv => ?_
      rw [hfill, hd] at hv
      exact (Option.some.inj hv).symm
    | none =>
      refine get?_foldl_apply_of_neither rfl hunset fun v hv => ?_
      rw [hfill, hd] at hv
      cases hv

/-- Filling again changes nothing. -/
theorem fill_fill (c d : Choices) : (c.fill d).fill d = c.fill d := by
  refine ext fun key => ?_
  have hget : ((c.fill d).fill d).get? key = ((c.get? key).or (d.get? key)).or (d.get? key) := rfl
  rw [hget, Option.or_assoc, Option.or_self]
  rfl

end Choices

/-! ## What a file supplies -/

/-- What is in a configuration file that may be absent. -/
abbrev FileContents := Option (Except IoError (List UInt8))

namespace Config

/-- The file is there, can be read as a configuration, and has a valid entry for the key. -/
def Supplies (path : Path) (contents : FileContents) (key : SettingKey) (value : String) : Prop :=
  ∃ bytes file, contents = some bytes ∧ ConfigFile.ofBytes path bytes = .ok file ∧
    file.analysis.get? key = some value ∧ key.check value = .ok ()

theorem get?_load_eq_some_iff {path : Path} {contents : FileContents} {key : SettingKey}
    {value : String} : (load path contents).analysis.get? key = some value ↔
      Supplies path contents key value := by
  constructor
  · intro h
    cases contents with
    | none => cases h
    | some bytes =>
      rw [load] at h
      cases hfile : ConfigFile.ofBytes path bytes with
      | error e =>
        rw [hfile] at h
        cases h
      | ok file =>
        rw [hfile] at h
        dsimp only at h
        rw [get?_ofFile, kept?_eq_some_iff] at h
        exact ⟨bytes, file, rfl, hfile, h⟩
  · rintro ⟨bytes, file, rfl, hfile, hkept⟩
    rw [load]
    simp only [hfile]
    rw [get?_ofFile, kept?_eq_some_iff]
    exact hkept

theorem logLevel_foldl_takeSetting (f : ConfigFile) (keys : List SettingKey) (c : Config) :
    (keys.foldl (takeSetting f) c).logLevel = c.logLevel := by
  induction keys generalizing c with
  | nil => rfl
  | cons key keys ih =>
    rw [List.foldl_cons, ih, takeSetting]
    split
    · rfl
    · split <;> rfl

theorem logLevel_ofFile (f : ConfigFile) :
    (ofFile f).logLevel = f.logLevel.filter fun level => logLevels.contains (Text.lower level) := by
  have hnone := logLevel_foldl_takeSetting f SettingKey.all {}
  rw [ofFile]
  dsimp only
  rw [takeLevel]
  split
  · rename_i hlevel
    rw [hnone, hlevel]
    rfl
  · rename_i level hlevel
    rw [hlevel, Option.filter_some]
    split
    · rfl
    · exact hnone

end Config

namespace ConfigFile

def without (f : ConfigFile) (key : SettingKey) : ConfigFile :=
  { f with analysis := { get? := fun k => if k = key then none else f.analysis.get? k } }

/-- An entry among the values of a section. -/
def itemText? (values : List (String × Toml)) (key : SettingKey) : Option String :=
  (values.lookup key.fileName).bind fun v => (settingText key v).toOption

theorem itemText?_eq_some_iff {values : List (String × Toml)} {key : SettingKey} {value : String} :
    itemText? values key = some value ↔
      ∃ v, values.lookup key.fileName = some v ∧ settingText key v = .ok value := by
  have htext : ∀ v, (settingText key v).toOption = some value ↔ settingText key v = .ok value := by
    intro v
    cases settingText key v <;> simp [Except.toOption]
  simp only [itemText?, Option.bind_eq_some_iff, htext]

theorem get?_readChoices {values : List (String × Toml)} {keys : List SettingKey} {c d : Choices}
    (h : readChoices values keys c = .ok d) (k : SettingKey) :
    d.get? k = if k ∈ keys then (itemText? values k).or (c.get? k) else c.get? k := by
  induction keys generalizing c with
  | nil =>
    cases h
    rfl
  | cons key keys ih =>
    rw [readChoices] at h
    cases hv : values.lookup key.fileName with
    | none =>
      simp only [hv] at h
      rw [ih h]
      have hentry : itemText? values key = none := by rw [itemText?, hv, Option.bind_none]
      by_cases hk : k = key <;> by_cases hmem : k ∈ keys <;> simp [hk, hmem, hentry]
    | some v =>
      simp only [hv] at h
      cases htext : settingText key v with
      | error e =>
        rw [htext] at h
        cases h
      | ok text =>
        simp only [htext] at h
        rw [ih h]
        have hentry : itemText? values key = some text := itemText?_eq_some_iff.2 ⟨v, hv, htext⟩
        by_cases hk : k = key <;> by_cases hmem : k ∈ keys <;>
          simp [hk, hmem, hentry, Choices.set]

/-- The settings of a document are the entries of its section of settings. -/
theorem get?_ofMembers {members : Toml.Members} {file : ConfigFile}
    (h : ofMembers members = .ok file) :
    ∃ values, sectionValues "analysis" (SettingKey.all.map SettingKey.fileName)
        (members.lookup "analysis") = .ok values ∧
      ∀ key value, file.analysis.get? key = some value ↔
        ∃ v, values.lookup key.fileName = some v ∧ settingText key v = .ok value := by
  rw [ofMembers] at h
  obtain ⟨values, hvalues, h⟩ := exists_of_bind_ok h
  obtain ⟨logging, -, h⟩ := exists_of_bind_ok h
  obtain ⟨choices, hchoices, h⟩ := exists_of_bind_ok h
  obtain ⟨level, -, h⟩ := exists_of_bind_ok h
  obtain ⟨name, -, h⟩ := exists_of_bind_ok h
  cases h
  refine ⟨values, hvalues, fun key value => ?_⟩
  have hall : key ∈ SettingKey.all := by cases key <;> decide
  have hget := get?_readChoices hchoices key
  rw [if_pos hall] at hget
  rw [hget, ← itemText?_eq_some_iff, Option.or_none]

end ConfigFile

namespace Config

theorem load_of_ofBytes {path : Path} {bytes : Except IoError (List UInt8)} {file : ConfigFile}
    (h : ConfigFile.ofBytes path bytes = .ok file) : load path (some bytes) = ofFile file := by
  rw [load]
  simp only [h]

variable {f : ConfigFile} {key k : SettingKey}

theorem kept?_eq_none {value : String} {e : ConfigError} (hvalue : f.analysis.get? key = some value)
    (he : key.check value = .error e) : kept? f key = none := by
  rw [kept?, hvalue, Option.filter_some, he]
  rfl

theorem kept?_without (f : ConfigFile) (key k : SettingKey) :
    kept? (f.without key) k = if k = key then none else kept? f k := by
  rw [kept?, ConfigFile.without]
  dsimp only
  split
  · rfl
  · rfl

end Config

/-! ## Sessions -/

namespace Session

/-- Gets ready with what is kept of the configuration file. -/
def ready (i : Invocation) (o : Options) (config : Config) : Except Refusal Session :=
  let readings := LogFilter.choose i.logDirectives (o.has .debug) config.logLevel
  if readings.broken then .error (.directives readings.complaints)
  else
    .ok {
      configPath := configPathOf i o
      config
      debug := o.has .debug
      complaints := readings.complaints
      filter := readings.filter
      request := { source := o.source, choices := o.choices.fill config.analysis } }

def found (bytes : Except IoError (List UInt8)) (isThere : Bool) : FileContents :=
  if isThere then some bytes else none

/-- The run of a session, after the log file was opened or refused. -/
def run {σ : Type} (s : Session) (stages : Stages σ) (store : σ) (refused : Option IoError) :
    RunOutcome σ :=
  ({ store := stages.log store (s.openingEvents refused) } : Analyzer σ).analyze stages s.request

def runIn (s : Session) (now : Timestamp) (f : Folder) : RunOutcome Folder :=
  let (f, refused) := f.openLog s.config.logFile
  s.run (s.stagesInFolder now refused) f refused

/-- Sessions that are asked for the same. With parts that keep the log apart from the storage they
end alike, leave the same behind and ask for the same writes. -/
structure ActsAs (s t : Session) : Prop where
  request : s.request = t.request
  performs : ∀ {σ : Type} (stages : Stages σ),
    (∀ store events, stages.log store events = store) → ∀ store refused refused',
      (s.analyze stages store refused).ending = (t.analyze stages store refused').ending ∧
      (s.analyze stages store refused).store = (t.analyze stages store refused').store ∧
      (s.analyze stages store refused).writes = (t.analyze stages store refused').writes

/-- Both are refused for the same reason, or both are ready and act alike. -/
inductive Alike : Except Refusal Session → Except Refusal Session → Prop
  | refused (r : Refusal) : Alike (.error r) (.error r)
  | ready {s t : Session} (h : s.ActsAs t) : Alike (.ok s) (.ok t)

section

variable {i : Invocation} {o : Options} {bytes : Except IoError (List UInt8)} {isThere : Bool}
  {s t : Session}

/-- A file that was asked for and is no configuration ends the program. -/
theorem prepare_of_refused {e : ConfigError} (hpath : o.configPath?.isSome = true)
    (hfile : ConfigFile.ofBytes (configPathOf i o) bytes = .error e) :
    prepare i o bytes isThere = .error (.config e) := by
  simp [prepare, hpath, hfile, Except.mapError, bind, Except.bind]

/-- Otherwise only what is kept of the file counts. -/
theorem prepare_eq_ready (h : o.configPath?.isSome = true →
      ∃ file, ConfigFile.ofBytes (configPathOf i o) bytes = .ok file) :
    prepare i o bytes isThere =
      ready i o (Config.load (configPathOf i o) (found bytes isThere)) := by
  rw [prepare, ready, found]
  cases hpath : o.configPath?.isSome with
  | false => simp [bind, Except.bind, pure, Except.pure, throw, throwThe, MonadExceptOf.throw]
  | true =>
    obtain ⟨file, hfile⟩ := h hpath
    simp [hfile, Except.mapError, bind, Except.bind, pure, Except.pure, throw, throwThe,
      MonadExceptOf.throw]

theorem ready_of_prepare (h : prepare i o bytes isThere = .ok s) :
    ready i o (Config.load (configPathOf i o) (found bytes isThere)) = .ok s := by
  rw [← h, prepare_eq_ready]
  intro hpath
  cases hfile : ConfigFile.ofBytes (configPathOf i o) bytes with
  | ok file => exact ⟨file, rfl⟩
  | error e =>
    rw [prepare_of_refused hpath hfile] at h
    cases h

theorem of_ready {config : Config} (h : ready i o config = .ok s) :
    s.config = config ∧
      s.request = { source := o.source, choices := o.choices.fill config.analysis } := by
  rw [ready] at h
  split at h <;> cases h
  exact ⟨rfl, rfl⟩

/-- Sessions act alike if they are asked for the same. -/
theorem actsAs_of_request (h : s.request = t.request) : s.ActsAs t where
  request := h
  performs stages hlog store refused refused' := by
    rw [analyze, analyze]
    dsimp only
    rw [hlog, hlog, h]
    exact ⟨rfl, rfl, rfl⟩

theorem alike_ready {config config' : Config} (hlevel : config.logLevel = config'.logLevel)
    (hfill : o.choices.fill config.analysis = o.choices.fill config'.analysis) :
    Alike (ready i o config) (ready i o config') := by
  rw [ready, ready, hlevel]
  split
  · exact .refused _
  · exact .ready (actsAs_of_request (by rw [hfill]))

theorem exit_analyze_eq_zero_iff {σ : Type} (stages : Stages σ) (store : σ)
    (refused : Option IoError) : (s.analyze stages store refused).ending.exit = 0 ↔
      ∃ report, (s.run stages store refused).result = .ok report := by
  have hending : (s.analyze stages store refused).ending =
      .ofRun s.request.choices (s.run stages store refused).result := rfl
  rw [hending]
  cases (s.run stages store refused).result with
  | ok report => simp [Ending.ofRun]
  | error stop => cases stop <;> simp [Ending.ofRun, Ending.failure, Ending.unwound]

end

end Session

/-! ## The command line first -/

open Session

/-- What the program does with arguments that were accepted and a configuration file. -/
structure Invocation.CommandLineFirst (i : Invocation) (o : Options) : Prop where
  /-- A number of workers that is given is read. -/
  workers : ∀ v, (.jobs, v) ∈ o.values →
    ∃ n : Nat, n < 2 ^ 64 ∧ Text.natural? v.toList = some n ∧ o.Gives .workerThreads (toString n)
  /-- A run is asked for what the arguments give, else for what the file supplies. -/
  value : ∀ bytes isThere s, prepare i o bytes isThere = .ok s →
    s.request.source = o.source ∧
      ∀ key value, s.request.choices.get? key = some value ↔
        o.Gives key value ∨ (∀ v, ¬ o.Gives key v) ∧
          Config.Supplies (configPathOf i o) (found bytes isThere) key value
  /-- So it is for whatever is read from a file. -/
  decoded : ∀ (file : ConfigFile) key value,
    (o.choices.fill (Config.ofFile file).analysis).get? key = some value ↔
      o.Gives key value ∨ (∀ v, ¬ o.Gives key v) ∧
        file.analysis.get? key = some value ∧ key.check value = .ok ()
  /-- Only what the file supplies for the keys that the arguments leave open counts. -/
  openKeys : ∀ bytes isThere bytes' isThere' s t,
    prepare i o bytes isThere = .ok s → prepare i o bytes' isThere' = .ok t →
    (∀ key, (∃ v, o.Gives key v) ∨
      ∀ v, Config.Supplies (configPathOf i o) (found bytes isThere) key v ↔
        Config.Supplies (configPathOf i o) (found bytes' isThere') key v) →
    s.ActsAs t
  /-- An entry that is not valid, or whose key the arguments set, is as good as none. -/
  entry : ∀ bytes bytes' isThere file key value,
    ConfigFile.ofBytes (configPathOf i o) bytes = .ok file →
    ConfigFile.ofBytes (configPathOf i o) bytes' = .ok (file.without key) →
    file.analysis.get? key = some value →
    ((∃ e, key.check value = .error e) ∨ ∃ v, o.Gives key v) →
    Alike (prepare i o bytes isThere) (prepare i o bytes' isThere)
  /-- A standard file that cannot be read as a configuration is as good as none. -/
  broken : ∀ bytes bytes' e, o.configPath? = none →
    ConfigFile.ofBytes (configPathOf i o) bytes = .error e →
    Alike (prepare i o bytes true) (prepare i o bytes' false)
  /-- The settings may be made in any order and repeatedly. -/
  order : ∀ bytes isThere s, prepare i o bytes isThere = .ok s → ∀ steps : List ChoiceStep,
    (∀ key v, .set key v ∈ steps ↔ o.Gives key v) →
    (∀ key v, .fill key v ∈ steps ↔
      Config.Supplies (configPathOf i o) (found bytes isThere) key v) →
    steps.foldl ChoiceStep.apply {} = s.request.choices
  /-- Filling in the file once more changes nothing. -/
  again : ∀ bytes isThere s, prepare i o bytes isThere = .ok s →
    s.request.choices.fill s.config.analysis = s.request.choices
  /-- If a file that was asked for is no configuration, the program fails and leaves everything as
  it was. -/
  refused : ∀ path e now f, o.configPath? = some path →
    ConfigFile.ofBytes path (f.read path) = .error e →
    i.performIn now f = (Ending.failure e.message).outcome [] f ∧
      (i.performIn now f).exit = 1 ∧ (i.performIn now f).folder = f
  /-- The program succeeds exactly if it gets ready and the run does. -/
  exits : ∀ now f, (i.performIn now f).exit = 0 ↔
    ∃ s report, prepare i o (f.read (configPathOf i o)) (f.has (configPathOf i o)) = .ok s ∧
      (s.runIn now f).result = .ok report

namespace Invocation

section

variable {o : Options}

/-- What fills the arguments comes after them. -/
theorem get?_fill (ho : o.Sound) (c : Choices) (key : SettingKey) (value : String) :
    (o.choices.fill c).get? key = some value ↔
      o.Gives key value ∨ (∀ v, ¬ o.Gives key v) ∧ c.get? key = some value := by
  have hget : (o.choices.fill c).get? key = (o.choices.get? key).or (c.get? key) := rfl
  rw [hget, Option.or_eq_some_iff, Option.eq_none_iff_forall_ne_some]
  simp only [ne_eq, ho.get?_choices_eq_some_iff]

/-- What fills the arguments counts only for the keys that they leave open. -/
theorem fill_congr (ho : o.Sound) {c d : Choices}
    (h : ∀ key, (∃ v, o.Gives key v) ∨ ∀ v, c.get? key = some v ↔ d.get? key = some v) :
    o.choices.fill c = o.choices.fill d := by
  refine Choices.ext fun key => ?_
  have hget : ∀ c : Choices, (o.choices.fill c).get? key =
      (o.choices.get? key).or (c.get? key) := fun _ => rfl
  rw [hget, hget]
  rcases h key with ⟨v, hv⟩ | hsame
  · rw [ho.get?_choices_eq_some_iff.2 hv, Option.some_or, Option.some_or]
  · rw [Option.ext hsame]

/-- An entry that is not valid, or whose key is given, makes no difference. -/
theorem alike_without (ho : o.Sound) {i : Invocation} {file : ConfigFile} {key : SettingKey}
    {value : String} (hvalue : file.analysis.get? key = some value)
    (hkey : (∃ e, key.check value = .error e) ∨ ∃ v, o.Gives key v) :
    Alike (ready i o (Config.ofFile file)) (ready i o (Config.ofFile (file.without key))) := by
  refine alike_ready ?_ (fill_congr ho fun k => ?_)
  · rw [Config.logLevel_ofFile, Config.logLevel_ofFile]
    rfl
  · rw [Config.get?_ofFile, Config.get?_ofFile]
    by_cases hk : k = key
    · subst hk
      rcases hkey with ⟨e, he⟩ | hgiven
      · refine .inr fun v => ?_
        rw [Config.kept?_eq_none hvalue he, Config.kept?_without, if_pos rfl]
      · exact .inl hgiven
    · exact .inr fun v => by rw [Config.kept?_without, if_neg hk]

end

/-- The program ends with the failure of the file that was asked for. -/
theorem performIn_of_refused {i : Invocation} {path : Path} {e : ConfigError} {now : Timestamp}
    {f : Folder} (h : Options.ofArguments i.arguments = .ok o) (hpath : o.configPath? = some path)
    (hfile : ConfigFile.ofBytes path (f.read path) = .error e) :
    i.performIn now f = (Ending.failure e.message).outcome [] f := by
  have hconfigPath : configPathOf i o = path := by rw [configPathOf, hpath, Option.getD_some]
  have hsome : o.configPath?.isSome = true := by
    rw [hpath]
    rfl
  rw [← hconfigPath] at hfile
  rw [performIn, h]
  dsimp only
  rw [prepare_of_refused hsome hfile]
  rfl

theorem exit_performIn_eq_zero_iff {i : Invocation} (h : Options.ofArguments i.arguments = .ok o)
    (now : Timestamp) (f : Folder) : (i.performIn now f).exit = 0 ↔
      ∃ s report, prepare i o (f.read (configPathOf i o)) (f.has (configPathOf i o)) = .ok s ∧
        (s.runIn now f).result = .ok report := by
  rw [performIn, h]
  dsimp only
  cases hs : prepare i o (f.read (configPathOf i o)) (f.has (configPathOf i o)) with
  | error refusal =>
    cases refusal <;> simp [Refusal.ending, Ending.outcome, Ending.failure, Ending.unwound]
  | ok s =>
    have hexit := exit_analyze_eq_zero_iff (s := s)
      (s.stagesInFolder now (f.openLog s.config.logFile).2) (f.openLog s.config.logFile).1
      (f.openLog s.config.logFile).2
    constructor
    · intro hzero
      obtain ⟨report, hreport⟩ := hexit.1 hzero
      exact ⟨s, report, rfl, hreport⟩
    · rintro ⟨t, report, ht, hreport⟩
      cases ht
      exact hexit.2 ⟨report, hreport⟩

theorem commandLineFirst {i : Invocation} {o : Options}
    (h : Options.ofArguments i.arguments = .ok o) : i.CommandLineFirst o := by
  have ho := Options.sound_of_ofArguments h
  constructor
  case workers =>
    intro v hv
    obtain ⟨n, hn, hlt⟩ := ho.exists_natural? hv
    exact ⟨n, hlt, hn, .jobs hv hn⟩
  case value =>
    intro bytes isThere s hs
    obtain ⟨-, hrequest⟩ := of_ready (ready_of_prepare hs)
    rw [hrequest]
    refine ⟨rfl, fun key value => ?_⟩
    rw [get?_fill ho, Config.get?_load_eq_some_iff]
  case decoded =>
    intro file key value
    rw [get?_fill ho, Config.get?_ofFile, Config.kept?_eq_some_iff]
  case openKeys =>
    intro bytes isThere bytes' isThere' s t hs ht hsame
    obtain ⟨-, hs⟩ := of_ready (ready_of_prepare hs)
    obtain ⟨-, ht⟩ := of_ready (ready_of_prepare ht)
    refine actsAs_of_request ?_
    rw [hs, ht, fill_congr ho fun key => ?_]
    simpa only [Config.get?_load_eq_some_iff] using hsame key
  case entry =>
    intro bytes bytes' isThere file key value hfile hwithout hvalue hkey
    rw [prepare_eq_ready fun _ => ⟨file, hfile⟩, prepare_eq_ready fun _ => ⟨_, hwithout⟩]
    cases isThere with
    | false => exact alike_ready rfl rfl
    | true =>
      rw [found, if_pos rfl, found, if_pos rfl, Config.load_of_ofBytes hfile,
        Config.load_of_ofBytes hwithout]
      exact alike_without ho hvalue hkey
  case broken =>
    intro bytes bytes' e hpath hfile
    have hstandard : ∀ {p : Prop}, o.configPath?.isSome = true → p := fun hsome => by
      rw [hpath] at hsome
      cases hsome
    rw [prepare_eq_ready hstandard, prepare_eq_ready hstandard]
    refine alike_ready ?_ ?_ <;> simp [found, Config.load, hfile]
  case order =>
    intro bytes isThere s hs steps hset hfill
    obtain ⟨-, hrequest⟩ := of_ready (ready_of_prepare hs)
    rw [hrequest]
    refine Choices.foldl_apply_eq (fun key v => ?_) fun key v => ?_
    · rw [hset, ho.get?_choices_eq_some_iff]
    · rw [hfill, Config.get?_load_eq_some_iff]
  case again =>
    intro bytes isThere s hs
    obtain ⟨hconfig, hrequest⟩ := of_ready (ready_of_prepare hs)
    rw [hrequest, hconfig, Choices.fill_fill]
  case refused =>
    intro path e now f hpath hfile
    rw [performIn_of_refused h hpath hfile]
    exact ⟨rfl, rfl, rfl⟩
  case exits =>
    intro now f
    exact exit_performIn_eq_zero_iff h now f

/-- **The command line comes before the configuration file**, key by key, whatever the file is and
in whatever order settings are made, and the exit of the program says how it went. The entries of
the file are those of its section of settings, each under the name of its key. -/
theorem command_line_before_file :
    (∀ (i : Invocation) (o : Options), Options.ofArguments i.arguments = .ok o →
      i.CommandLineFirst o) ∧
    ∀ (members : Toml.Members) (file : ConfigFile), ConfigFile.ofMembers members = .ok file →
      ∃ values, ConfigFile.sectionValues "analysis" (SettingKey.all.map SettingKey.fileName)
          (members.lookup "analysis") = .ok values ∧
        ∀ key value, file.analysis.get? key = some value ↔
          ∃ v, values.lookup key.fileName = some v ∧ ConfigFile.settingText key v = .ok value :=
  ⟨fun _ _ => commandLineFirst, fun _ _ => ConfigFile.get?_ofMembers⟩

/-- A file with a level that the arguments override, a shape that counts, and too many workers. -/
def sampleConfig : Except IoError (List UInt8) :=
  .ok (Utf8.encode
    "[analysis]\nlog_level = \"Warning\"\nparse_mode = \"plain\"\nworker_threads = 999".toList)

theorem exists_sampleFile :
    ∃ file, ConfigFile.ofBytes ⟨"c.toml"⟩ sampleConfig = .ok file ∧
      file.analysis.get? .parseMode = some "plain" ∧
      file.analysis.get? .workerThreads = some "999" := by
  have hread : (ConfigFile.ofBytes ⟨"c.toml"⟩ sampleConfig).toOption.map
      (fun file => (file.analysis.get? .parseMode, file.analysis.get? .workerThreads)) =
        some (some "plain", some "999") := by decide +kernel
  obtain ⟨file, hfile, hentries⟩ := Option.map_eq_some_iff.1 hread
  obtain ⟨hshape, hworkers⟩ := Prod.mk.inj hentries
  refine ⟨file, ?_, hshape, hworkers⟩
  cases hbytes : ConfigFile.ofBytes ⟨"c.toml"⟩ sampleConfig with
  | error e =>
    rw [hbytes] at hfile
    cases hfile
  | ok file' =>
    rw [hbytes] at hfile
    cases hfile
    rfl

theorem command_line_before_file_sampleConfig :
    let i : Invocation :=
      { arguments := ["app.log", "--level=Error", "--or-of-ands"], standardConfig := ⟨"c.toml"⟩ }
    let o : Options :=
      { input := some "app.log", values := [(.level, "Error")], flags := [.orOfAnds] }
    let asked : Invocation := { i with arguments := ["app.log", "-c", "my.toml"] }
    Options.ofArguments i.arguments = .ok o ∧
      (∃ s, Session.prepare i o sampleConfig true = .ok s ∧
        s.request.choices.get? .logLevel = some "Error" ∧
        s.request.choices.get? .parseMode = some "plain" ∧
        s.request.choices.get? .workerThreads = none) ∧
      (∀ now, (asked.performIn now {}).exit = 1 ∧ (asked.performIn now {}).folder = {}) ∧
      ∃ file, ConfigFile.ofMembers [("analysis", .table .defined [("filter", .string "a")])] =
          .ok file ∧ file.analysis.get? .filter = some "a" := by
  intro i o asked
  have ho : Options.ofArguments i.arguments = .ok o := by decide +kernel
  have hasked : Options.ofArguments asked.arguments =
      .ok { input := some "app.log", values := [(.config, "my.toml")] } := by decide +kernel
  refine ⟨ho, ?_, fun now => ?_, ?_⟩
  · have hready : (Session.prepare i o sampleConfig true).isOk = true := by decide +kernel
    obtain ⟨s, hs⟩ := exists_of_isOk hready
    obtain ⟨file, hfile, hshape, hworkers⟩ := exists_sampleFile
    obtain ⟨-, hvalue⟩ := (command_line_before_file.1 i o ho).value _ _ s hs
    refine ⟨s, hs, ?_, ?_, ?_⟩
    · exact (hvalue .logLevel "Error").2 (.inl (.level (by decide)))
    · refine (hvalue .parseMode "plain").2
        (.inr ⟨?_, _, file, rfl, hfile, hshape, by decide +kernel⟩)
      rintro v (_ | _ | _ | ⟨hmode⟩)
      simp [o] at hmode
    · refine Option.eq_none_iff_forall_ne_some.2 fun v hv => ?_
      rcases (hvalue .workerThreads v).1 hv with
        hgiven | ⟨-, bytes, file', hbytes, hfile', hget, hcheck⟩
      · cases hgiven with
        | jobs hjobs hn => simp [o] at hjobs
      · cases hbytes
        cases hfile.symm.trans hfile'
        rw [hworkers] at hget
        cases hget
        revert hcheck
        decide +kernel
  · have hmissing : ConfigFile.ofBytes ⟨"my.toml"⟩ (Folder.read {} ⟨"my.toml"⟩) =
        .error (.io ⟨"my.toml"⟩ .noEntry) := by
      have habsent : Folder.read {} ⟨"my.toml"⟩ = .error .noEntry := by decide +kernel
      rw [habsent, ConfigFile.ofBytes]
    exact ((command_line_before_file.1 asked _ hasked).refused ⟨"my.toml"⟩ _ now {} rfl hmissing).2
  · have hok : (ConfigFile.ofMembers
        [("analysis", .table .defined [("filter", .string "a")])]).isOk = true := by decide +kernel
    obtain ⟨file, hfile⟩ := exists_of_isOk hok
    obtain ⟨values, hvalues, hentries⟩ := command_line_before_file.2 _ file hfile
    cases hvalues
    exact ⟨file, hfile, (hentries .filter "a").2 ⟨.string "a", rfl, rfl⟩⟩

end Invocation

end LogDigest
