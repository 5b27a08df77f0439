import PointRelay.Config.Validation
import PointRelay.Environment
import PointRelay.Time.Instant

/-!
# Surroundings

What a run finds: its arguments and environment, the files, the standard input, the time, the orders
in which pools will be tried, and when it will be asked to stop.
-/

namespace PointRelay.Command

structure Surroundings where
  args : List String
  environment : Environment
  /-- What is found under a path. -/
  file : String → Config.FileContent
  stdin : List UInt8
  now : Time.Instant
  orders : List (List Nat)
  /-- The number of lines after which the run is asked to stop reading, if it is. -/
  stopAfter : Option Nat := none

/-- What a run leaves: its exit code and what it printed. -/
structure Outcome where
  exit : Nat
  stdout : String
  stderr : String
deriving DecidableEq, Repr

namespace Surroundings

/-- The file of assignments. -/
def variablesFile : String := ".env"

/-- The environment with the variables of the file of assignments. -/
def settled (s : Surroundings) : Environment :=
  match s.file variablesFile with
  | .bytes content => s.environment.extend content
  | .missing | .directory => s.environment

end Surroundings

end PointRelay.Command
