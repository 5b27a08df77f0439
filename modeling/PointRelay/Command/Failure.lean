import PointRelay.Config.Validation
import PointRelay.Failure

/-!
# Failures of tasks

A failure tells what could not be done and, cause behind cause, why.
-/

namespace PointRelay.Command

structure Failure where
  message : String
  /-- What lies behind it, nearest first. -/
  causes : List String
deriving DecidableEq, Repr

namespace Failure

/-- A failure without a cause. -/
def plain (message : String) : Failure := ⟨message, []⟩

/-- What could not be done because of a configuration. -/
def ofConfig (what : String) (f : Config.Fault) : Failure := ⟨what, f.message :: f.causes⟩

/-- What could not be done because of an output. -/
def ofOutput (what : String) (e : OutputError) : Failure := ⟨what, e.message :: e.causes⟩

/-- Input that cannot be read. -/
def ofInput (input why : String) : Failure :=
  ⟨"Failed to read input " ++ input ++ ": " ++ why, [why]⟩

/-- Batches that could not be written. -/
def ofBatches (failed total : Nat) : Failure :=
  plain (toString failed ++ " of " ++ toString total ++ " batch(es) failed to write")

/-- All in one line. -/
def line (f : Failure) : String := String.intercalate ": " (f.message :: f.causes)

/-- A text whose lines behind the first are moved to the right. -/
def hanging (indent : Nat) (s : String) : String :=
  String.ofList (s.toList.flatMap fun c =>
    if c = '\n' then '\n' :: List.replicate indent ' ' else [c])

/-- The causes one below the other, with numbers if there are several. -/
def causeLines : List String → List String
  | [] => []
  | [cause] => ["    " ++ hanging 4 cause]
  | causes => causes.mapIdx fun i cause =>
    let number := toString i
    String.ofList (List.replicate (5 - number.length) ' ') ++ number ++ ": " ++ hanging 7 cause

/-- The failure as it is printed at the end. -/
def text (f : Failure) : String :=
  "Error: " ++ f.message ++
    (if f.causes.isEmpty then "" else "\n\nCaused by:") ++
    String.join ((causeLines f.causes).map ("\n" ++ ·)) ++ "\n"

end Failure

end PointRelay.Command
