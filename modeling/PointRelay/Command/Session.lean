import PointRelay.Command.Setup
import PointRelay.Feed
import PointRelay.Resolver

/-!
# Writing sessions

A session connects an output, feeds it the records of the input, closes it again and tells how it
went. Batches that fail do not end it, but they count against it.
-/

namespace PointRelay.Command

variable {ω : Type} [Net ω]

/-- The output over the connections of a configuration. -/
abbrev Relay (ω : Type) := Output (Resolver (Connection ω)) (Connection ω) ω

namespace Session

/-- The lines of an input, if it can be opened. -/
def openInput (s : Surroundings) (input : String) : Except Failure Lines :=
  if input = "-" then .ok (.ofBytes s.stdin)
  else
    match s.file input with
    | .missing => .error (.ofInput input Config.FileContent.isMissing)
    | .directory => .ok [.unreadable Config.FileContent.isDirectory]
    | .bytes content => .ok (.ofBytes content)

/-- What a feed that came to its end amounts to. -/
def conclude (f : Feed) : Outcome :=
  if f.tally.failed = 0 then ⟨0, f.report, ""⟩
  else
    ⟨1, f.report, (Failure.ofBatches f.tally.failed f.tally.total).text⟩

/-- Feed an output the lines of an input and close it. -/
def relay (lines : Lines) (input : String) (batchSize : Nat) (now : Time.Instant) (o : Relay ω) :
    Outcome × Relay ω :=
  let (failed, f, o) := Feed.run Output.write batchSize now lines .start o
  let (_, o) := o.close
  match failed with
  | some why => (⟨1, "", (Failure.ofInput input why).text⟩, o)
  | none => (conclude f, o)

/-- Connect the output of a configuration. -/
def connect (s : Surroundings) (net : ω) (b : Config.Blueprint) :
    Except (Failure × ω) (Relay ω) :=
  match (Output.ofConfig b.output net s.orders : Except OutputError (Relay ω)) with
  | .error e => .error (.ofOutput "Failed to resolve endpoints" e, net)
  | .ok o =>
    match o.connect with
    | (.error e, o) => .error (.ofOutput "Failed to connect output" e, o.fleet.net)
    | (.ok (), o) => .ok o

/-- Run a session. What becomes of the network is given back. -/
def run (s : Surroundings) (net : ω) (path input : String) (batchSize : Nat) : Outcome × ω :=
  match loadConfig s path with
  | .error f => (⟨1, "", f.text⟩, net)
  | .ok b =>
    match connect s net b with
    | .error (f, net) => (⟨1, "", f.text⟩, net)
    | .ok o =>
      match openInput s input with
      | .error f => (⟨1, "", f.text⟩, o.fleet.net)
      | .ok lines =>
        let (outcome, o) := relay (lines.stoppedAfter s.stopAfter) input batchSize s.now o
        (outcome, o.fleet.net)

end Session

end PointRelay.Command
