import PointRelay.Datagram
import PointRelay.Stream

/-!
# Connections

A connection is a datagram or a stream connection, by the kind of its endpoint.
-/

namespace PointRelay

/-- Connections over networks of type `ω`. -/
inductive Connection (ω : Type) where
  | datagram (d : Datagram)
  | stream (s : Stream)

/-- Transports that are opened to endpoints. -/
class Dial (τ : Type) (ω : outParam Type) extends Transport τ ω where
  dial : Endpoint → ω → Except ConnectionError τ × ω

namespace Connection

variable {ω : Type} [Net ω]

def dial (e : Endpoint) (net : ω) : Except ConnectionError (Connection ω) × ω :=
  match e.kind with
  | .datagram payload =>
    let (d, net) := Datagram.dial e payload net
    (d.map .datagram, net)
  | .stream credentials => ((Stream.dial e credentials).map .stream, net)

omit [Net ω] in
def name : Connection ω → String
  | datagram d => d.name
  | stream s => s.name

def write (b : Batch) (c : Connection ω) (net : ω) : Effect (Connection ω) ω :=
  let (answer, net) := match c with
    | datagram d => d.write b net
    | stream s => s.write b net
  ⟨answer, c, net⟩

def create (database : String) (c : Connection ω) (net : ω) : Effect (Connection ω) ω :=
  let (answer, net) := match c with
    | datagram d => (d.create, net)
    | stream s => s.create database net
  ⟨answer, c, net⟩

omit [Net ω] in
def close (c : Connection ω) (net : ω) : Effect (Connection ω) ω :=
  ⟨.ok (), match c with
    | datagram d => .datagram d.close
    | stream s => .stream s.close, net⟩

instance : Dial (Connection ω) ω where
  endpoint := name
  write := write
  create := create
  close := close
  dial := dial

end Connection

end PointRelay
