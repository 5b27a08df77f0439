import PointRelay.Command.Invocation
import PointRelay.Environment

/-!
# Reading command lines

Options stand before or behind the name of the task; those that all tasks have may stand at either
side. A long option is `--name`, `--name value` or `--name=value`; short ones are `-n`, may be run
together, and take a value from the rest of their argument or from the next one. An option that is
not given takes its value from the environment. Apart from verbosity no option may be given twice
at one side of the task, and there nobody can be both quiet and verbose.
-/

namespace PointRelay.Command

inductive Flag where
  | verbose
  | quiet
  | logFormat
  | metricsPort
  | config
  | input
  | batchSize
  | json
  | help
  | version
deriving DecidableEq, Repr

namespace Flag

def long : Flag → String
  | verbose => "verbose"
  | quiet => "quiet"
  | logFormat => "log-format"
  | metricsPort => "metrics-port"
  | config => "config"
  | input => "input"
  | batchSize => "batch-size"
  | json => "json"
  | help => "help"
  | version => "version"

def short? : Flag → Option Char
  | verbose => some 'v'
  | quiet => some 'q'
  | config => some 'c'
  | input => some 'i'
  | help => some 'h'
  | version => some 'V'
  | logFormat | metricsPort | batchSize | json => none

def takesValue : Flag → Bool
  | logFormat | metricsPort | config | input | batchSize => true
  | verbose | quiet | json | help | version => false

/-- The variable that stands in for an option that is not given. -/
def variableIn? (scope : Scope) : Flag → Option String
  | verbose => some "METRIC_RELAY_VERBOSE"
  | logFormat => some "METRIC_RELAY_LOG_FORMAT"
  | metricsPort => some "METRIC_RELAY_METRICS_PORT"
  | config => if scope = .write then some "METRIC_RELAY_CONFIG" else none
  | batchSize => some "METRIC_RELAY_BATCH_SIZE"
  | quiet | input | json | help | version => none

end Flag

namespace Scope

/-- The options that may stand behind the name of a task, or before it. Those of the task and those
that all tasks have take turns. -/
def flags : Scope → List Flag
  | program => [.verbose, .quiet, .logFormat, .metricsPort, .help, .version]
  | write => [.config, .verbose, .input, .quiet, .batchSize, .logFormat, .metricsPort, .help]
  | validate | info => [.config, .verbose, .json, .quiet, .logFormat, .metricsPort, .help]
  | sampleConfig => [.verbose, .quiet, .logFormat, .metricsPort, .help]

/-- The tasks by name. -/
def ofTask? : String → Option Scope
  | "write" => some write
  | "validate" => some validate
  | "info" => some info
  | "sample-config" => some sampleConfig
  | _ => none

end Scope

/-! ## Values -/

def defaultConfig : String := "relay.toml"
def defaultInput : String := "-"
def defaultBatchSize : Nat := 1000

def natural? (cs : List Char) : Option Nat :=
  if cs.isEmpty || !cs.all Char.isDigit then none
  else some (cs.foldl (fun n c => n * 10 + (c.toNat - 48)) 0)

/-- A count from `lo` to `hi`, behind an optional plus sign. -/
def count? (lo hi : Nat) (s : String) : Option Nat := do
  let n ← match s.toList with
    | '+' :: rest => natural? rest
    | cs => natural? cs
  if lo ≤ n ∧ n ≤ hi then some n else none

/-- A count from zero, where zero may have a minus sign. -/
def countToZero? (hi : Nat) (s : String) : Option Nat :=
  match s.toList with
  | '-' :: rest => (natural? rest).filter (· = 0)
  | _ => count? 0 hi s

def LogFormat.ofText? : String → Option LogFormat
  | "json" => some json
  | "pretty" => some pretty
  | "compact" => some compact
  | _ => none

/-- The options given at one side of the task. -/
structure Given where
  verbosity : Option Nat
  quiet : Bool
  logFormat : Option LogFormat
  metricsPort : Option Nat
  config : Option String
  input : Option String
  batchSize : Option Nat
  json : Bool

namespace Given

def nothing : Given := ⟨none, false, none, none, none, none, none, false⟩

private def fresh {α : Type} (old new : Option α) : Except Stop (Option α) :=
  if old.isNone ∧ new.isSome then .ok new else .error .usage

/-- Give an option its value. -/
def set (f : Flag) (s : String) (g : Given) : Except Stop Given :=
  match f with
  | .verbose => return { g with verbosity := ← fresh g.verbosity (countToZero? 255 s) }
  | .logFormat => return { g with logFormat := ← fresh g.logFormat (LogFormat.ofText? s) }
  | .metricsPort => return { g with metricsPort := ← fresh g.metricsPort (countToZero? 65535 s) }
  | .config => return { g with config := ← fresh g.config (if s = "" then none else some s) }
  | .input => return { g with input := ← fresh g.input (some s) }
  | .batchSize => return { g with batchSize := ← fresh g.batchSize (count? 1 (0x10000000000000000 - 1) s) }
  | .quiet | .json | .help | .version => .error .usage

/-- Give an option that has no value. The short form of the one for help asks for less. -/
def raise (scope : Scope) (detail : Detail) (f : Flag) (g : Given) : Except Stop Given :=
  match f with
  | .verbose => .ok { g with verbosity := some (min 255 (g.verbosity.getD 0 + 1)) }
  | .quiet => if g.quiet then .error .usage else .ok { g with quiet := true }
  | .json => if g.json then .error .usage else .ok { g with json := true }
  | .help => .error (.help scope detail)
  | .version => .error .version
  | .logFormat | .metricsPort | .config | .input | .batchSize => .error .usage

def has (f : Flag) (g : Given) : Bool :=
  match f with
  | .verbose => g.verbosity.isSome
  | .quiet => g.quiet
  | .logFormat => g.logFormat.isSome
  | .metricsPort => g.metricsPort.isSome
  | .config => g.config.isSome
  | .input => g.input.isSome
  | .batchSize => g.batchSize.isSome
  | .json => g.json
  | .help | .version => false

/-- Take the values of options not given from the environment. -/
def complete (env : Environment) (scope : Scope) (g : Given) : Except Stop Given :=
  scope.flags.foldlM (fun g f =>
    match (f.variableIn? scope).bind env.find? with
    | some s => if g.has f then .ok g else g.set f s
    | none => .ok g) g

/-- The options at one side of the task, if they go together. -/
def checked (env : Environment) (scope : Scope) (g : Given) : Except Stop Given := do
  let g ← g.complete env scope
  if g.quiet && g.verbosity.isSome then .error .usage else .ok g

/-- Options behind the task, and those before it that are not repeated behind. -/
def orElse (inner outer : Given) : Given :=
  { inner with
    verbosity := inner.verbosity <|> outer.verbosity
    quiet := inner.quiet || outer.quiet
    logFormat := inner.logFormat <|> outer.logFormat
    metricsPort := inner.metricsPort <|> outer.metricsPort }

end Given

/-! ## Arguments -/

/-- Read a run of short options. An option that still needs its value is given back. -/
def readShort (scope : Scope) : List Char → Given → Except Stop (Option Flag × Given)
  | [], g => .ok (none, g)
  | c :: rest, g =>
    match scope.flags.find? fun f => f.short? == some c with
    | none => .error .usage
    | some f =>
      if f.takesValue then
        match rest with
        | [] => .ok (some f, g)
        | '=' :: value => (g.set f (String.ofList value)).map (none, ·)
        | value => (g.set f (String.ofList value)).map (none, ·)
      else (g.raise scope .brief f).bind (readShort scope rest)

/-- Read a long option, without its dashes. -/
def readLong (scope : Scope) (cs : List Char) (g : Given) : Except Stop (Option Flag × Given) :=
  let (name, rest) := cs.span (· ≠ '=')
  match scope.flags.find? fun f => f.long.toList == name with
  | none => .error .usage
  | some f =>
    match f.takesValue, rest with
    | true, [] => .ok (some f, g)
    | true, _ :: value => (g.set f (String.ofList value)).map (none, ·)
    | false, [] => (g.raise scope .full f).map (none, ·)
    | false, _ :: _ => .error .usage

/-- What is asked for behind `help`. -/
def helpFor : List String → Stop
  | [] => .help .program .full
  | ["help"] => .helpOnHelp
  | [name] => ((Scope.ofTask? name).map (Stop.help · .full)).getD .usage
  | _ => .usage

/-- Read arguments, the first of which may be the value of an option, up to the name of a task. -/
def readArguments (scope : Scope) (awaiting : Option Flag) :
    List String → Given → Except Stop (Given × Option (Scope × List String))
  | [], g => if awaiting.isSome then .error .usage else .ok (g, none)
  | arg :: rest, g =>
    match arg.toList, awaiting with
    | ['-', '-'], _ => if awaiting.isNone && rest.isEmpty then .ok (g, none) else .error .usage
    | '-' :: '-' :: cs, none => do
      let (awaiting, g) ← readLong scope cs g
      readArguments scope awaiting rest g
    | '-' :: c :: cs, none => do
      let (awaiting, g) ← readShort scope (c :: cs) g
      readArguments scope awaiting rest g
    | '-' :: _ :: _, some _ => .error .usage
    | _, some f => do readArguments scope none rest (← g.set f arg)
    | _, none =>
      if scope ≠ .program then .error .usage
      else if arg = "help" then .error (helpFor rest)
      else
        match Scope.ofTask? arg with
        | some task => .ok (g, some (task, rest))
        | none => .error .usage

/-- The task of a scope. -/
def task? (scope : Scope) (g : Given) : Option Task :=
  let config := g.config.getD defaultConfig
  match scope with
  | .program => none
  | .write => some (.write config (g.input.getD defaultInput) (g.batchSize.getD defaultBatchSize))
  | .validate => some (.validate config g.json)
  | .info => some (.info config g.json)
  | .sampleConfig => some .sampleConfig

/-- Read the arguments of a command line. -/
def Invocation.read (env : Environment) (args : List String) : Except Stop Invocation := do
  match ← readArguments .program none args .nothing with
  | (_, none) => .error .usage
  | (outer, some (scope, rest)) =>
    let (inner, _) ← readArguments scope none rest .nothing
    let _ ← inner.checked env scope
    let _ ← outer.checked env .program
    let g ← (inner.orElse outer).complete env scope
    match task? scope g with
    | none => .error .usage
    | some task =>
      return ⟨g.verbosity.getD 0, g.quiet, g.logFormat.getD .pretty, g.metricsPort, task⟩

end PointRelay.Command
