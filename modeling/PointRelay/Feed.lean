import PointRelay.Failure
import PointRelay.Output
import PointRelay.Record.Reader
import PointRelay.Stats.Text
import PointRelay.Text.Blank
import PointRelay.Text.Utf8

/-!
# Feeding records

Lines are read one after another and their records collected into batches. A batch is handed over
when it is full, and the last one when the lines end or a request to stop comes. Blank lines count
for nothing, and a line that is no record is skipped. A line that cannot be read ends the feed at
once.
-/

namespace PointRelay

open Stats Time

/-- What comes when a line is waited for. -/
inductive Reading where
  | line (text : String)
  /-- The line cannot be read, for the given reason. -/
  | unreadable (why : String)
  /-- A request to stop comes first. -/
  | stop
deriving DecidableEq, Repr

/-- Readings one after another. Behind the last of them the lines have ended. -/
abbrev Lines := List Reading

namespace Lines

/-- The lines of some bytes. -/
def ofBytes (bytes : List UInt8) : Lines :=
  (Text.Utf8.lines bytes).map fun raw =>
    match Text.Utf8.faultFrom? 0 raw with
    | some f => .unreadable f.message
    | none => .line (String.ofList (Text.chomp (Text.Utf8.decodeLossy raw)))

/-- Lines of which no more than a number are read, if one is given. -/
def stoppedAfter (n : Option Nat) (lines : Lines) : Lines :=
  match n with
  | none => lines
  | some n => lines.take n ++ [.stop]

end Lines

/-- How far a feed has come. -/
structure Feed where
  /-- The records that wait for their batch to be handed over, in order. -/
  batch : List Record
  /-- The lines that were no record. -/
  skipped : Nat
  tally : Tally Float

namespace Feed

def start : Feed := ⟨[], 0, .empty⟩

variable {σ : Type}

/-- How a handed-over batch counts. Writing is not timed, so all latencies are zero. -/
def outcome : Except OutputError Report → Outcome Float
  | .ok r => .success (r.endpoint.getD "-") r.points r.attempts 0
  | .error _ => .failure 0

section
variable (write : List Record → σ → Except OutputError Report × σ)

/-- Hand the batch over. -/
def flush (f : Feed) (s : σ) : Feed × σ :=
  let (result, s) := write f.batch s
  ({ f with batch := [], tally := f.tally.record (outcome result) }, s)

/-- Hand over what waits, if there is anything. -/
def finish (f : Feed) (s : σ) : Feed × σ :=
  if f.batch.isEmpty then (f, s) else f.flush write s

/-- Take a record in. A batch of `size` is handed over. -/
def add (size : Nat) (r : Record) (f : Feed) (s : σ) : Feed × σ :=
  let f := { f with batch := f.batch ++ [r] }
  if size ≤ f.batch.length then f.flush write s else (f, s)

/-- Take a line in. -/
def takeLine (size : Nat) (now : Instant) (line : String) (f : Feed) (s : σ) : Feed × σ :=
  let text := Text.trimmed line
  if text = "" then (f, s)
  else
    match Record.readLine? text with
    | none => ({ f with skipped := f.skipped + 1 }, s)
    | some w => f.add write size (w.at now) s

/-- Feed lines in batches of `size`. If a line cannot be read, the reason is given back. The clock
is read once: records without a time of their own all get the same one, where a clock that is read
for each line would move on between them. -/
def run (size : Nat) (now : Instant) : Lines → Feed → σ → Option String × Feed × σ
  | [], f, s => (none, f.finish write s)
  | .stop :: _, f, s => (none, f.finish write s)
  | .unreadable why :: _, f, s => (some why, f, s)
  | .line text :: rest, f, s =>
    let (f, s) := f.takeLine write size now text s
    run size now rest f s

end

/-- The text of the latencies, which are counted and not measured. -/
def latencyText (s : Summary Float) : String :=
  if s.latency.count = 0 then s.latency.text
  else "* (n=" ++ toString s.latency.count ++ ")"

/-- What is told at the end. -/
def report (f : Feed) : String :=
  let s := f.tally.summary
  "\n" ++ s.textWith (latencyText s) ++
    (if f.skipped = 0 then "" else "Skipped lines: " ++ toString f.skipped ++ "\n") ++ "\n"

end Feed

end PointRelay
