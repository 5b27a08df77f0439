import PointRelay.Connection
import PointRelay.Output

/-!
# Pools of endpoints

A pool for configured endpoints is built by opening them in order. A stream endpoint whose database
cannot be created is closed again and left out; an endpoint that cannot be opened ends the building.
-/

namespace PointRelay

/-- The endpoints to which transports of type `τ` are opened, and the database they are for. -/
structure Resolver (τ : Type) where
  database : String
  endpoints : List Endpoint

namespace Resolver

variable {τ ω : Type} [Dial τ ω]

/-- Close a connection that will not join the pool. -/
def release (s : Focus τ ω) : Focus τ ω :=
  match s.close with
  | (.ok (), s) => s
  | (.error e, s) => s.note (.excludedNotClosed s.member.endpoint e)

/-- See to the database of an open connection. Whether it may join the pool is given back. -/
def vet (database : String) (e : Endpoint) (s : Focus τ ω) : Bool × Focus τ ω :=
  match e.kind with
  | .datagram _ => (true, s.move .ready)
  | .stream _ =>
    match s.ensure database with
    | (.ok (), s) => (true, s.move .ready)
    | (.error why, s) => (false, release (s.note (.excluded e.name database why)))

/-- Open endpoints in order. -/
def openAll (database : String) :
    List Endpoint → ω → Journal → Except OutputError (List (Member τ)) × ω × Journal
  | [], net, notes => (.ok [], net, notes)
  | e :: rest, net, notes =>
    match (Dial.dial e net : Except ConnectionError τ × ω) with
    | (.error source, net) => (.error (.connect e.name source), net, notes)
    | (.ok t, net) =>
      let (joins, s) := vet database e ⟨Member.new t, net, notes⟩
      let (members, net, notes) := openAll database rest s.net s.journal
      (members.map fun ms => if joins then s.member :: ms else ms, net, notes)

/-- Open a pool for all endpoints. -/
def build (r : Resolver τ) (net : ω) : Built (Resolver τ) τ ω :=
  let (answer, net, notes) := openAll r.database r.endpoints net []
  ⟨answer, r, net, notes⟩

instance : Factory (Resolver τ) τ ω where
  build := build

/-- The resolver of a configuration whose URLs can all be used. -/
def ofConfig (c : Config.Output) : Except OutputError (Resolver τ) :=
  (Endpoint.resolveAll c).map fun endpoints => ⟨c.database, endpoints⟩

end Resolver

/-- The output of a configuration. -/
def Output.ofConfig {τ ω : Type} (c : Config.Output) (net : ω) (orders : List (List Nat)) :
    Except OutputError (Output (Resolver τ) τ ω) :=
  (Resolver.ofConfig c).map fun r => .new c.settings r net orders

end PointRelay
