import PointRelay.Connection
import PointRelay.Net.Loopback
import PointRelay.Proofs.Fleet.Seclusion
import PointRelay.Proofs.Stream.Requests

/-!
# Connections to different hosts share nothing

A network is made of hosts when what is asked of one depends on its state alone and changes no
other. On such a network a connection sees the hosts that it goes to, and connections that go to
different ones share nothing.
-/

namespace PointRelay

open Loopback (location)

/-- A step on a network that goes to the host at one place. -/
structure Confined {ω η α : Type} (host : String → ω → η) (place : String) (step : ω → α × ω) :
    Prop where
  same {net net' : ω} : host place net = host place net' →
    (step net).1 = (step net').1 ∧ host place (step net).2 = host place (step net').2
  apart {other : String} (net : ω) : other ≠ place → host other (step net).2 = host other net

/-- Networks that are made of hosts. A request goes to the host of its URL, a datagram to that of
its address. -/
class Hosted (ω : Type) extends Net ω where
  Host : Type
  host : String → ω → Host
  confined_request (r : Request) : Confined host (location r.url) (Net.request r)
  confined_send (address : String) (bytes : List UInt8) :
    Confined host address (Net.send address bytes)

namespace Loopback

/-- A host answers by what is left of its script, as long as the network is plugged in. -/
def state (place : String) (n : Loopback) : Bool × Option Host := (n.plugged, n.hosts.find? place)

theorem confined_request (r : Request) : Confined state (location r.url) (request r) := by
  refine ⟨fun {n n'} same => ?_, fun {other} n ne => ?_⟩
  · obtain ⟨plugged, there⟩ := Prod.mk.inj same
    unfold request
    rw [plugged]
    split
    · exact ⟨rfl, same⟩
    · simp [state, Dict.find?_insert, there]
  · unfold request
    split
    · rfl
    · simp [state, Dict.find?_insert, ne]

theorem confined_send (address : String) (bytes : List UInt8) :
    Confined state address (send address bytes) := by
  refine ⟨fun {n n'} same => ?_, fun {other} n ne => ?_⟩
  · unfold send
    split <;> exact ⟨rfl, same⟩
  · unfold send
    split <;> rfl

end Loopback

instance : Hosted Loopback where
  Host := Bool × Option Loopback.Host
  host := Loopback.state
  confined_request := Loopback.confined_request
  confined_send := Loopback.confined_send

namespace Confined

variable {ω η α β : Type} {host : String → ω → η} {place : String} {step : ω → α × ω}

theorem still (host : String → ω → η) (place : String) (a : α) :
    Confined host place fun net => (a, net) :=
  ⟨fun same => ⟨rfl, same⟩, fun _ _ => rfl⟩

/-- What becomes of the answer changes nothing. -/
theorem map (confined : Confined host place step) (f : α → β) :
    Confined host place fun net => (step net).map f id :=
  ⟨fun same => ⟨congrArg f (confined.same same).1, (confined.same same).2⟩, confined.apart⟩

/-- What comes next may depend on the answer. -/
theorem bind (confined : Confined host place step) {next : α → ω → β × ω}
    (later : ∀ a, Confined host place (next a)) :
    Confined host place fun net => next (step net).1 (step net).2 := by
  refine ⟨fun {net net'} same => ?_, fun {other} net ne => ?_⟩
  · obtain ⟨answer, left⟩ := confined.same same
    rw [answer]
    exact (later _).same left
  · exact ((later _).apart _ ne).trans (confined.apart net ne)

end Confined

variable {ω : Type} [Hosted ω]

namespace Stream

theorem location_anonymous (u : Url) : location u.anonymous = location u := by
  unfold location Url.anonymous
  cases u.authority <;> rfl

theorem location_request (url : Url) (params : List (String × String)) (body : String)
    (s : Stream) : location (s.request url params body).url = location url := by
  change location (if url.credentials?.isSome then url.anonymous else url) = location url
  split
  · exact location_anonymous url
  · rfl

theorem confined_write (b : Batch) (s : Stream) :
    Confined (ω := ω) Hosted.host (location s.writeUrl) (s.write b) := by
  rcases s.write_cases (ω := ω) b with ⟨e, refused⟩ | ⟨answer, posted⟩
  · rw [funext refused]
    exact .still _ _ _
  · rw [funext posted, ← location_request s.writeUrl (writeParams b.settings) b.body s]
    exact (Hosted.confined_request (s.writing b)).map answer

theorem confined_create (database : String) (s : Stream) :
    Confined (ω := ω) Hosted.host (location s.queryUrl) (s.create database) := by
  rcases s.create_cases (ω := ω) database with ⟨e, -, refused⟩ | ⟨answer, posted⟩
  · rw [funext refused]
    exact .still _ _ _
  · rw [funext posted, ← location_request s.queryUrl [("q", creation database)] "" s]
    exact (Hosted.confined_request (s.creating database)).map answer

end Stream

namespace Datagram

/-- Send the others if the first left. -/
def goOn (address : String) (rest : List (List UInt8)) :
    Except String Unit → ω → Except String Unit × ω
  | .ok (), net => sendAll address rest net
  | .error why, net => (.error why, net)

theorem sendAll_cons (address : String) (bytes : List UInt8) (rest : List (List UInt8)) (net : ω) :
    sendAll address (bytes :: rest) net =
      goOn address rest (Net.send address bytes net).1 (Net.send address bytes net).2 := by
  rw [sendAll]
  rcases Net.send address bytes net with ⟨why | ⟨⟩, after⟩ <;> rfl

theorem confined_sendAll (address : String) (datagrams : List (List UInt8)) :
    Confined (ω := ω) Hosted.host address (sendAll address datagrams) := by
  induction datagrams with
  | nil => exact .still _ _ _
  | cons bytes rest ih =>
    rw [funext (sendAll_cons (ω := ω) address bytes rest)]
    refine (Hosted.confined_send address bytes).bind fun answer => ?_
    cases answer with
    | ok => exact ih
    | error why => exact .still _ _ _

theorem confined_write (b : Batch) (d : Datagram) :
    Confined (ω := ω) Hosted.host d.address (d.write b) := by
  by_cases closed : d.closed
  · have shape : (d.write b : ω → _) = fun net => (.error (.closed d.name), net) :=
      funext fun net => if_pos closed
    rw [shape]
    exact .still _ _ _
  · have shape : (d.write b : ω → _) = fun net =>
        (sendAll d.address (Packing.pack d.payload b.lines) net).map
          (Except.mapError (.io d.name)) id := by
      funext net
      refine (if_neg closed).trans ?_
      rcases sendAll d.address (Packing.pack d.payload b.lines) net with ⟨why | ⟨⟩, after⟩ <;> rfl
    rw [shape]
    exact (confined_sendAll _ _).map _

end Datagram

namespace Connection

/-- Where a connection goes. -/
def places : Connection ω → List String
  | datagram d => [d.address]
  | stream s => [location s.writeUrl, location s.queryUrl]

/-- An operation leaves the connection as it is and goes to one of its places. -/
def Visits (op : Connection ω → ω → Effect (Connection ω) ω) (c : Connection ω) : Prop :=
  ∃ place ∈ c.places, ∃ step, Confined Hosted.host place step ∧
    ∀ net, op c net = ⟨(step net).1, c, (step net).2⟩

theorem visits_write (b : Batch) (c : Connection ω) : c.Visits (write b) := by
  cases c with
  | datagram d => exact ⟨_, List.mem_singleton_self _, _, d.confined_write b, fun _ => rfl⟩
  | stream s => exact ⟨_, List.mem_cons_self, _, s.confined_write b, fun _ => rfl⟩

theorem visits_create (database : String) (c : Connection ω) : c.Visits (create database) := by
  cases c with
  | datagram d =>
    exact ⟨_, List.mem_singleton_self _, _, .still _ _ d.create, fun _ => rfl⟩
  | stream s =>
    exact ⟨_, List.mem_cons_of_mem _ (List.mem_singleton_self _), _, s.confined_create database,
      fun _ => rfl⟩

variable {op : Connection ω → ω → Effect (Connection ω) ω} {c d : Connection ω}

/-- The state of the hosts that a connection goes to. -/
def hosts (c : Connection ω) (net : ω) : List (Hosted.Host ω) :=
  c.places.map (Hosted.host · net)

theorem Visits.same (visits : c.Visits op) {net net' : ω} (same : c.hosts net = c.hosts net') :
    (op c net).SameFor hosts (op c net') := by
  obtain ⟨place, mem, step, confined, does⟩ := visits
  have alike := List.map_inj_left.mp same
  obtain ⟨answer, left⟩ := confined.same (alike place mem)
  rw [does, does]
  refine ⟨answer, rfl, List.map_congr_left fun other among => ?_⟩
  by_cases here : other = place
  · rw [here, left]
  · rw [confined.apart net here, confined.apart net' here, alike other among]

theorem Visits.apart (visits : c.Visits op) (net : ω) (apart : c.places.Disjoint d.places) :
    d.hosts (op c net).net = d.hosts net ∧ (op c net).transport.places.Disjoint d.places := by
  obtain ⟨place, mem, step, confined, does⟩ := visits
  rw [does]
  refine ⟨List.map_congr_left fun other among => ?_, apart⟩
  exact confined.apart net fun here => apart mem (here ▸ among)

/-- Connections are apart when they go to different hosts. -/
instance : Secluded (Connection ω) ω where
  Part := List (Hosted.Host ω)
  part := hosts
  Apart c d := c.places.Disjoint d.places
  apart_symm apart _ mem mem' := apart mem' mem
  write_same b c _ _ := (c.visits_write b).same
  write_apart b c _ := (c.visits_write b).apart
  create_same database c _ _ := (c.visits_create database).same
  create_apart database c _ := (c.visits_create database).apart

end Connection

end PointRelay
