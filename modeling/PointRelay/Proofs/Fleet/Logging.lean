import PointRelay.Proofs.Fleet.Moves
import PointRelay.Proofs.Fleet.Projection
import PointRelay.Resolver

/-!
# Logged networks

A logged network keeps a log of all that is asked of the transports on it, in one sequence for all
of them: of which transport, what, and how it answered. Transports are told apart by marks. Those
that are dialled are numbered by their dialling; those of a fleet are marked with their places.
Keeping the log changes nothing: a logged network is looked at as the network in it by a projection.
-/

namespace PointRelay

/-- What is asked of a transport, or of a network for one. -/
inductive Errand where
  | dial (e : Endpoint)
  | write (b : Batch)
  | create (database : String)
  | close

structure Entry where
  /-- The mark of the transport that was asked. -/
  mark : Nat
  errand : Errand
  answer : Except ConnectionError Unit

def Entry.isDial (x : Entry) : Bool :=
  match x.errand with
  | .dial _ => true
  | .write _ | .create _ | .close => false

/-- A network and what was asked of transports on it, newest first. -/
structure Logged (ω : Type) where
  net : ω
  log : List Entry

structure Marked (τ : Type) where
  mark : Nat
  transport : τ

variable {τ ω : Type}

namespace Logged

/-- A network on which nothing was asked yet. -/
def fresh (net : ω) : Logged ω := ⟨net, []⟩

/-- How many transports were asked for so far. -/
def dials (net : Logged ω) : Nat := net.log.countP Entry.isDial

/-- What was asked and of whom, oldest first. -/
def asked (net : Logged ω) : List (Nat × Errand) :=
  (net.log.map fun x => (x.mark, x.errand)).reverse

end Logged

namespace Marked

/-- The effect of an errand, with its answer in the log. -/
def enter (t : Marked τ) (errand : Errand) (net : Logged ω) (e : Effect τ ω) :
    Effect (Marked τ) (Logged ω) :=
  ⟨e.answer, ⟨t.mark, e.transport⟩, ⟨e.net, ⟨t.mark, errand, e.answer⟩ :: net.log⟩⟩

instance [Transport τ ω] : Transport (Marked τ) (Logged ω) where
  endpoint t := Transport.endpoint t.transport
  write b t net := t.enter (.write b) net (Transport.write b t.transport net.net)
  create database t net :=
    t.enter (.create database) net (Transport.create database t.transport net.net)
  close t net := t.enter .close net (Transport.close t.transport net.net)
  latency t := Transport.latency t.transport

/-- What is dialled is marked with the number of those that were dialled before. -/
def dial [Dial τ ω] (e : Endpoint) (net : Logged ω) :
    Except ConnectionError (Marked τ) × Logged ω :=
  let dialled : Except ConnectionError τ × ω := Dial.dial e net.net
  (dialled.1.map (Marked.mk net.dials),
    ⟨dialled.2, ⟨net.dials, .dial e, dialled.1.map fun _ => ()⟩ :: net.log⟩)

instance [Dial τ ω] : Dial (Marked τ) (Logged ω) where
  dial := dial

theorem projection [Transport τ ω] :
    Projection (Marked.transport : Marked τ → τ) (Logged.net : Logged ω → ω) :=
  ⟨fun _ => rfl, fun _ _ _ => rfl, fun _ _ _ => rfl, fun _ _ => rfl⟩

end Marked

namespace Fleet

/-- The fleet with its members marked with their places, on a network with an empty log. -/
def marked (f : Fleet τ ω) : Fleet (Marked τ) (Logged ω) :=
  ⟨f.members.mapIdx fun i m => m.map (Marked.mk i), .fresh f.net, f.journal⟩

theorem map_marked (f : Fleet τ ω) : f.marked.map Marked.transport Logged.net = f := by
  have members : (f.members.mapIdx fun i m => m.map (Marked.mk i)).map
      (Member.map Marked.transport) = f.members := by
    apply List.ext_getElem?
    intro i
    rw [List.getElem?_map, List.getElem?_mapIdx, Option.map_map]
    exact Option.map_id'
  unfold map marked
  rw [members]
  rfl

/-- Every member is marked with its place. -/
def Placed (f : Fleet (Marked τ) (Logged ω)) : Prop :=
  f.Everywhere fun i m => m.transport.mark = i

theorem placed_marked (f : Fleet τ ω) : f.marked.Placed := by
  intro i m found
  simp only [marked, List.getElem?_mapIdx, Option.map_eq_some_iff] at found
  obtain ⟨n, -, rfl⟩ := found
  rfl

end Fleet

end PointRelay
