import PointRelay.Fleet
import PointRelay.Order
import PointRelay.Record

/-!
# The output

An output owns a pool. Connecting builds a pool and takes it in place of the current one, writing
encodes records and dispatches them to the pool, closing leaves an empty pool behind. A write that
finds the pool empty builds one first, unless the output was closed since it was last connected.
-/

namespace PointRelay

/-- What building a pool answers and leaves behind. -/
structure Built (φ τ ω : Type) where
  answer : Except OutputError (List (Member τ))
  factory : φ
  net : ω
  /-- What was noted meanwhile, newest first. -/
  notes : Journal

/-- Makers of pools. A pool may come out empty; an answer that is an error makes none. -/
class Factory (φ : Type) (τ ω : outParam Type) where
  build : φ → ω → Built φ τ ω

structure Output (φ τ ω : Type) where
  settings : Settings
  factory : φ
  fleet : Fleet τ ω
  /-- The places of the members of the pool. -/
  pool : List Nat
  closed : Bool
  /-- The orders of the dispatches to come. -/
  orders : List (List Nat)

/-- What a write that succeeded tells. -/
structure Report where
  /-- Who took the batch, if there was something to send. -/
  endpoint : Option String
  attempts : Nat
  points : Nat
deriving DecidableEq, Repr

variable {φ τ ω : Type}

namespace Output

/-- An output that was never connected. -/
def new (settings : Settings) (factory : φ) (net : ω) (orders : List (List Nat)) :
    Output φ τ ω :=
  ⟨settings, factory, ⟨[], net, []⟩, [], false, orders⟩

def note (n : Note) (o : Output φ τ ω) : Output φ τ ω := { o with fleet := o.fleet.note n }

/-- The members of the pool. -/
def members (o : Output φ τ ω) : List (Member τ) := o.fleet.select o.pool

/-- The answer to the closing of a pool, by the failures of its members. -/
def closing : List ConnectionError → Except OutputError Unit
  | [] => .ok ()
  | failures => .error (.close failures)

/-- Note what became of a batch of `points`, and answer. -/
def conclude (points : Nat) (v : Verdict) (o : Output φ τ ω) :
    Except OutputError Report × Output φ τ ω :=
  match v with
  | .delivered endpoint attempts =>
    (.ok ⟨some endpoint, attempts, points⟩, o.note (.batchWritten attempts))
  | .exhausted attempted poolSize =>
    let e := OutputError.poolExhausted attempted poolSize
    (.error e, o.note (.batchFailed attempted e))

section
variable [Factory φ τ ω]

/-- Build a pool. Its members join the fleet, at the places given back. -/
def build (o : Output φ τ ω) : Except OutputError (List Nat) × Output φ τ ω :=
  let b := Factory.build o.factory o.fleet.net
  let fleet := { o.fleet with net := b.net, journal := b.notes ++ o.fleet.journal }
  match b.answer with
  | .error e => (.error e, { o with factory := b.factory, fleet })
  | .ok ms =>
    let (places, fleet) := fleet.add ms
    (.ok places, { o with factory := b.factory, fleet })

/-- See to a pool for a write: an empty one is built anew unless the output is closed. -/
def prepare (o : Output φ τ ω) : Output φ τ ω :=
  if o.pool ≠ [] ∨ o.closed then o
  else
    match o.build with
    | (.error e, o) => o.note (.rebuildFailed e)
    | (.ok pool, o) => { (o.note .rebuilt).note (.poolSize pool.length) with pool }

end

variable [Transport τ ω]

/-- Dispatch a batch to the pool in the next order. An empty pool takes no order. -/
def dispatch (b : Batch) (o : Output φ τ ω) : Verdict × Output φ τ ω :=
  if o.pool = [] then (.exhausted 0 0, o)
  else
    let (order, orders) := Order.draw o.pool.length o.orders
    let (verdict, fleet) := o.fleet.dispatch o.settings.database b o.pool order
    (verdict, { o with fleet, orders })

/-- Close all members of the pool and leave it empty. -/
def close (o : Output φ τ ω) : Except OutputError Unit × Output φ τ ω :=
  let (failures, fleet) := (o.fleet.note (.poolSize 0)).closeAll o.pool
  (closing failures, { o with fleet, pool := [], closed := true })

variable [Factory φ τ ω]

/-- Build a pool, take it in place of the current one, and close the members of that. -/
def connect (o : Output φ τ ω) : Except OutputError Unit × Output φ τ ω :=
  match o.build with
  | (.error e, o) => (.error e, o)
  | (.ok pool, o) =>
    let (failures, fleet) := (o.fleet.note (.poolSize pool.length)).closeAll o.pool
    let o := { o with fleet, pool, closed := false }
    match closing failures with
    | .ok () => (.ok (), o)
    | .error e => (.ok (), o.note (.replacedNotClosed e))

/-- Write records as one batch to one member of the pool. -/
def write (records : List Record) (o : Output φ τ ω) :
    Except OutputError Report × Output φ τ ω :=
  match Batch.encode o.settings records with
  | .error refusal => (.error (.encoding refusal), o)
  | .ok b =>
    if b.isEmpty then (.ok ⟨none, 0, 0⟩, o)
    else
      let (verdict, o) := (o.note (.encoded b.size)).prepare.dispatch b
      o.conclude b.size verdict

end Output

end PointRelay
