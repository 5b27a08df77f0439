import PointRelay.Dict
import PointRelay.Stats.Running

/-!
# The tally of written batches

What happened to the batches of a run: how many were written and how many failed, the points
written, how many connections each written batch took, how long every batch took, and which
endpoint took each written batch.
-/

namespace PointRelay.Stats

structure Tally (α : Type) where
  total : Nat
  failed : Nat
  points : Nat
  attempts : Running α
  latency : Running α
  byEndpoint : Dict Nat

structure Summary (α : Type) where
  total : Nat
  failed : Nat
  points : Nat
  failureRate : α
  attempts : Spread α
  latency : Spread α
  byEndpoint : Dict Nat

/-- One batch as it ended. -/
inductive Outcome (α : Type) where
  | success (endpoint : String) (points attempts : Nat) (latency : α)
  | failure (latency : α)
deriving DecidableEq

/-- What a tally is told. -/
inductive Entry (α : Type) where
  | batch (ended : Outcome α)
  | reset

namespace Tally

variable {α : Type} [Scalar α]

def empty : Tally α := ⟨0, 0, 0, .empty, .empty, .empty⟩

def countFor (d : Dict Nat) (endpoint : String) : Nat :=
  ((d.entries.find? (·.1 = endpoint)).map (·.2)).getD 0

def record (t : Tally α) : Outcome α → Tally α
  | .success endpoint points attempts latency =>
    { t with
      total := t.total + 1
      points := t.points + points
      attempts := t.attempts.push (Scalar.ofCount attempts)
      latency := t.latency.push latency
      byEndpoint := t.byEndpoint.insert endpoint (countFor t.byEndpoint endpoint + 1) }
  | .failure latency =>
    { t with
      total := t.total + 1
      failed := t.failed + 1
      latency := t.latency.push latency }

/-- A reset forgets all batches. -/
def enter (t : Tally α) : Entry α → Tally α
  | .batch ended => t.record ended
  | .reset => .empty

/-- The tally that has been told some entries in order. -/
def ofEntries (entries : List (Entry α)) : Tally α := entries.foldl enter .empty

/-- The share of failed batches in percent. -/
def failureRate (t : Tally α) : α :=
  if t.total = 0 then Scalar.ofCount 0
  else Scalar.ofCount t.failed / Scalar.ofCount t.total * Scalar.ofCount 100

def summary (t : Tally α) : Summary α :=
  ⟨t.total, t.failed, t.points, t.failureRate, t.attempts.spread, t.latency.spread, t.byEndpoint⟩

end Tally

end PointRelay.Stats
