/-!
# Invocations

What a command line asks for, once it is understood.
-/

namespace PointRelay.Command

inductive LogFormat where
  | json
  | pretty
  | compact
deriving DecidableEq, Repr

inductive Task where
  | write (config input : String) (batchSize : Nat)
  | validate (config : String) (json : Bool)
  | info (config : String) (json : Bool)
  | sampleConfig
deriving DecidableEq, Repr

/-- A task and the settings that all tasks have. -/
structure Invocation where
  verbosity : Nat
  quiet : Bool
  logFormat : LogFormat
  metricsPort : Option Nat
  task : Task
deriving DecidableEq, Repr

/-- The four tasks by their names, and none. -/
inductive Scope where
  | program
  | write
  | validate
  | info
  | sampleConfig
deriving DecidableEq, Repr

/-- How much a help says. -/
inductive Detail where
  | brief
  | full
deriving DecidableEq, Repr

/-- Why a command line asks for no task. -/
inductive Stop where
  | usage
  | help (scope : Scope) (detail : Detail)
  /-- Help on asking for help. -/
  | helpOnHelp
  | version
deriving DecidableEq, Repr

end PointRelay.Command
