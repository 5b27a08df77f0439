import PointRelay.Endpoint
import PointRelay.Net
import PointRelay.Point.Packing
import PointRelay.Transport

/-!
# Datagram connections

A datagram connection packs the lines of a batch and sends the datagrams one after another. Nothing
comes back: a batch counts as written once all its datagrams left. The first that does not leave
ends the write; those before it are gone.
-/

namespace PointRelay

structure Datagram where
  name : String
  address : String
  /-- The bytes that a datagram is filled up to. -/
  payload : Nat
  closed : Bool
deriving DecidableEq, Repr

namespace Datagram

variable {ω : Type} [Net ω]

/-- Find the way to an endpoint whose datagrams have the given payload. Looking up the host, binding
a socket and connecting it are one step of the network with one reason for its failure. That a host
is looked up and turns out to have no address is left out. -/
def dial (e : Endpoint) (payload : Nat) (net : ω) : Except ConnectionError Datagram × ω :=
  match e.socketAddress with
  | none => (.error (.unreachable e.name "missing host or port"), net)
  | some address =>
    match Net.connect address net with
    | (.ok (), net) => (.ok ⟨e.name, address, payload, false⟩, net)
    | (.error why, net) => (.error (.io e.name why), net)

/-- Send datagrams in order until one does not leave. -/
def sendAll (address : String) : List (List UInt8) → ω → Except String Unit × ω
  | [], net => (.ok (), net)
  | bytes :: rest, net =>
    match Net.send address bytes net with
    | (.ok (), net) => sendAll address rest net
    | (.error why, net) => (.error why, net)

def write (b : Batch) (d : Datagram) (net : ω) : Except ConnectionError Unit × ω :=
  if d.closed then (.error (.closed d.name), net)
  else
    match sendAll d.address (Packing.pack d.payload b.lines) net with
    | (.ok (), net) => (.ok (), net)
    | (.error why, net) => (.error (.io d.name why), net)

/-- Databases are created by requests only. -/
def create (d : Datagram) : Except ConnectionError Unit :=
  .error (.unsupported d.name "database creation")

def close (d : Datagram) : Datagram := { d with closed := true }

end Datagram

end PointRelay
