import PointRelay.Failure
import PointRelay.Phase

/-!
# The journal

The journal notes what happened, newest first. The warnings that an operator reads and the numbers
that a monitor collects are two views of the same notes, so neither can tell a story of its own.
-/

namespace PointRelay

inductive Note where
  | phaseChanged (endpoint : String) (before after : Phase)
  | accepted (endpoint : String)
  | refused (endpoint : String) (error : ConnectionError)
  | recovered (endpoint : String)
  | recoveryFailed (endpoint database : String) (error : ConnectionError)
  /-- An endpoint stays out of the pool because its database could not be created. -/
  | excluded (endpoint database : String) (error : ConnectionError)
  | excludedNotClosed (endpoint : String) (error : ConnectionError)
  | poolSize (n : Nat)
  | rebuilt
  | rebuildFailed (error : OutputError)
  | encoded (points : Nat)
  | batchWritten (attempts : Nat)
  | batchFailed (attempts : Nat) (error : OutputError)
  | notClosed (endpoint : String) (error : ConnectionError)
  | replacedNotClosed (error : OutputError)
deriving DecidableEq, Repr

/-- What happened so far, newest first. -/
abbrev Journal := List Note

/-! ## Events -/

structure Event where
  message : String
  fields : List (String × String)
deriving DecidableEq, Repr

/-- What an operator is told about a note, if anything. -/
def Note.event? : Note → Option Event
  | phaseChanged endpoint before after =>
    some ⟨"Connection state changed",
      [("endpoint", endpoint), ("from", before.text), ("to", after.text)]⟩
  | refused endpoint error =>
    some ⟨"Write to endpoint failed",
      [("endpoint", endpoint), ("class", error.failureClass.text), ("error", error.message)]⟩
  | recoveryFailed endpoint database error =>
    some ⟨"Database not found and failed to recreate",
      [("endpoint", endpoint), ("database", database), ("error", error.message)]⟩
  | excluded endpoint database error =>
    some ⟨"Database creation failed, excluding endpoint from pool",
      [("endpoint", endpoint), ("database", database), ("class", error.failureClass.text),
        ("error", error.message)]⟩
  | excludedNotClosed endpoint error =>
    some ⟨"Failed to close excluded connection",
      [("endpoint", endpoint), ("error", error.message)]⟩
  | rebuildFailed error =>
    some ⟨"Failed to rebuild connection pool", [("error", error.message)]⟩
  | batchFailed _ error => some ⟨"Batch write failed", [("error", error.message)]⟩
  | notClosed endpoint error =>
    some ⟨"Failed to close connection", [("endpoint", endpoint), ("error", error.message)]⟩
  | replacedNotClosed error =>
    some ⟨"Failed to close replaced pool", [("error", error.message)]⟩
  | accepted _ | recovered _ | poolSize _ | rebuilt | encoded _ | batchWritten _ => none

/-- The events, oldest first. -/
def Journal.events (j : Journal) : List Event := j.reverse.filterMap Note.event?

/-! ## Metrics -/

/-- A series of numbers: a name, told apart by labels in the order of their keys. -/
structure Series where
  name : String
  labels : List (String × String)
deriving DecidableEq, Repr

namespace Series

def batches (status : String) : Series := ⟨"metric_relay_batches_total", [("status", status)]⟩

def writeAttempts (failureClass endpoint status : String) : Series :=
  ⟨"metric_relay_write_attempts_total",
    [("class", failureClass), ("endpoint", endpoint), ("status", status)]⟩

def recoveries (endpoint status : String) : Series :=
  ⟨"metric_relay_schema_recoveries_total", [("endpoint", endpoint), ("status", status)]⟩

def rebuilds (status : String) : Series :=
  ⟨"metric_relay_pool_rebuilds_total", [("status", status)]⟩

def points : Series := ⟨"metric_relay_points_total", []⟩

def batchSize : Series := ⟨"metric_relay_batch_size", []⟩

def attemptsPerWrite : Series := ⟨"metric_relay_write_attempts", []⟩

def latency : Series := ⟨"metric_relay_write_latency_ms", []⟩

def poolSize : Series := ⟨"metric_relay_pool_size", []⟩

end Series

inductive Measure where
  /-- A counter goes up. -/
  | count (amount : Nat)
  /-- A gauge is set. -/
  | level (n : Nat)
  /-- A histogram gets a sample. -/
  | sample (n : Nat)
  /-- A histogram gets a duration, whose length is not kept. -/
  | timing
deriving DecidableEq, Repr

/-- What a note adds to the metrics. -/
def Note.measures : Note → List (Series × Measure)
  | accepted endpoint => [(.writeAttempts "none" endpoint "success", .count 1)]
  | refused endpoint error =>
    [(.writeAttempts error.failureClass.text endpoint "failure", .count 1)]
  | recovered endpoint => [(.recoveries endpoint "success", .count 1)]
  | recoveryFailed endpoint _ _ => [(.recoveries endpoint "failure", .count 1)]
  | poolSize n => [(.poolSize, .level n)]
  | rebuilt => [(.rebuilds "success", .count 1)]
  | rebuildFailed _ => [(.rebuilds "failure", .count 1)]
  | encoded n => [(.points, .count n), (.batchSize, .sample n)]
  | batchWritten attempts =>
    [(.batches "success", .count 1), (.attemptsPerWrite, .sample attempts), (.latency, .timing)]
  | batchFailed attempts _ =>
    [(.batches "failure", .count 1), (.attemptsPerWrite, .sample attempts), (.latency, .timing)]
  | phaseChanged _ _ _ | excluded _ _ _ | excludedNotClosed _ _ | notClosed _ _
  | replacedNotClosed _ => []

/-- What a monitor shows of a series. -/
inductive Metric where
  | counter (total : Nat)
  | gauge (last : Nat)
  /-- The samples, oldest first. -/
  | histogram (samples : List Nat)
  | timings (count : Nat)
deriving DecidableEq, Repr

/-- A series after one more measure. -/
def Metric.add : Option Metric → Measure → Metric
  | some (.counter total), .count n => .counter (total + n)
  | some (.histogram samples), .sample n => .histogram (samples ++ [n])
  | some (.timings count), .timing => .timings (count + 1)
  | _, .count n => .counter n
  | _, .level n => .gauge n
  | _, .sample n => .histogram [n]
  | _, .timing => .timings 1

namespace Journal

/-- The measures of all notes, oldest first. -/
def measures (j : Journal) : List (Series × Measure) := j.reverse.flatMap Note.measures

/-- A series as its measures make it. -/
def metric? (j : Journal) (s : Series) : Option Metric :=
  (j.measures.filter (·.1 = s)).foldl (fun m x => some (Metric.add m x.2)) none

/-- The series with a measure, in the order of their first. -/
def series (j : Journal) : List Series :=
  (j.measures.map (·.1)).foldl (fun seen s => if s ∈ seen then seen else seen ++ [s]) []

/-- All series with what a monitor shows of them. -/
def metrics (j : Journal) : List (Series × Metric) :=
  j.series.filterMap fun s => (j.metric? s).map fun m => (s, m)

/-- What a counter shows. -/
def total (j : Journal) (s : Series) : Nat :=
  match j.metric? s with
  | some (.counter n) => n
  | _ => 0

end Journal

end PointRelay
