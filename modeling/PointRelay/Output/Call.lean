import PointRelay.Output

/-!
# Calls in progress

Several calls may be under way on one output at a time. Here a call is cut into the steps between
which others may come: a look at the pool, building under the lock, taking a new pool in, closing
one member, writing to one member, one change of phase, one creation. A step of a call changes the
output and tells what the call does next.
-/

namespace PointRelay

/-- Where the dispatch of a batch stands. -/
inductive Trial where
  /-- The next member is about to be written to. -/
  | next
  /-- A member took the batch. -/
  | taken (place : Nat)
  /-- A member took the batch and was found degraded. -/
  | healing (place : Nat)
  /-- The database of a member is missing. -/
  | missing (place : Nat)
  /-- A recovering member is about to be asked for its database. -/
  | creating (place : Nat)
  /-- A recovering member has answered. -/
  | answered (place : Nat) (answer : Except ConnectionError Unit)

/-- A dispatch under way. -/
structure Dispatch where
  database : String
  batch : Batch
  poolSize : Nat
  attempts : Nat
  trial : Trial
  /-- The places of the members not tried yet. -/
  rest : List Nat

/-- What a call answers. -/
inductive Answer where
  | connected (result : Except OutputError Unit)
  | written (result : Except OutputError Report)
  | closed (result : Except OutputError Unit)

inductive Call where
  | connect
  /-- A pool is built and not yet taken in. -/
  | installing (pool : List Nat)
  /-- Members of a replaced pool are closed one after another. -/
  | replacing (rest : List Nat) (failures : List ConnectionError)
  | write (records : List Record)
  /-- The pool was found empty, and the lock is waited for. -/
  | preparing (batch : Batch)
  | dispatching (d : Dispatch)
  | close
  /-- Members of the last pool are closed one after another. -/
  | closing (rest : List Nat) (failures : List ConnectionError)
  | done (answer : Answer)

variable {φ τ ω : Type} [Transport τ ω]

namespace Dispatch

/-- A bound on the steps to come. -/
def remaining (d : Dispatch) : Nat :=
  4 * d.rest.length + match d.trial with
    | .next => 1
    | .taken _ => 3
    | .healing _ => 2
    | .missing _ => 4
    | .creating _ => 3
    | .answered _ _ => 2

/-- One step: the dispatch goes on, or it has a verdict. -/
def step (d : Dispatch) (f : Fleet τ ω) : (Dispatch ⊕ Verdict) × Fleet τ ω :=
  match d.trial with
  | .next =>
    match d.rest with
    | [] => (.inr (.exhausted d.attempts d.poolSize), f)
    | i :: rest =>
      match f.focus? i with
      | none => (.inl { d with rest }, f)
      | some s =>
        let tried := { d with rest, attempts := d.attempts + 1 }
        match s.write d.batch with
        | (.ok (), s) => (.inl { tried with trial := .taken i }, f.put i s.succeed)
        | (.error e, s) =>
          (.inl { tried with trial := if e.failureClass = .schemaMissing then .missing i else .next },
            f.put i (s.fail e))
  | .taken i =>
    match f.members[i]? with
    | some m =>
      if m.phase = .degraded then (.inl { d with trial := .healing i }, f)
      else (.inr (.delivered m.endpoint d.attempts), f)
    | none => (.inr (.exhausted d.attempts d.poolSize), f)
  | .healing i =>
    match f.focus? i with
    | some s => (.inr (.delivered s.member.endpoint d.attempts), f.put i (s.move .ready))
    | none => (.inr (.exhausted d.attempts d.poolSize), f)
  | .missing i => (.inl { d with trial := .creating i }, f.modify i (Focus.move .recovering))
  | .creating i =>
    match f.on i (Focus.ensure d.database) with
    | (some answer, f) => (.inl { d with trial := .answered i answer }, f)
    | (none, f) => (.inl { d with trial := .next }, f)
  | .answered i answer =>
    (.inl { d with trial := .next }, f.modify i (Focus.settle d.database answer))

/-- The milliseconds that the next step takes. -/
def wait (d : Dispatch) (f : Fleet τ ω) : Nat :=
  match d.trial, d.rest with
  | .next, i :: _ => (f.members[i]?.map fun m => Transport.latency m.transport).getD 0
  | _, _ => 0

end Dispatch

namespace Call

/-- Begin to dispatch a batch to the pool as it is now. -/
def begin (b : Batch) (o : Output φ τ ω) : Call × Output φ τ ω :=
  if o.pool = [] then
    let (result, o) := o.conclude b.size (.exhausted 0 0)
    (.done (.written result), o)
  else
    let (order, orders) := Order.draw o.pool.length o.orders
    (.dispatching ⟨o.settings.database, b, o.pool.length, 0, .next,
        order.filterMap fun k => o.pool[k]?⟩, { o with orders })

/-- Close the first of some members. -/
def release (i : Nat) (failures : List ConnectionError) (f : Fleet τ ω) :
    List ConnectionError × Fleet τ ω :=
  match f.focus? i with
  | none => (failures, f)
  | some s =>
    match s.close with
    | (.ok (), s) => (failures, f.put i s)
    | (.error e, s) => (failures ++ [e], f.put i (s.note (.notClosed s.member.endpoint e)))

/-- One step of a call. A call that is done stays so. -/
def step [Factory φ τ ω] (c : Call) (o : Output φ τ ω) : Call × Output φ τ ω :=
  match c with
  | .connect =>
    match o.build with
    | (.error e, o) => (.done (.connected (.error e)), o)
    | (.ok pool, o) => (.installing pool, o)
  | .installing pool =>
    (.replacing o.pool [], { (o.note (.poolSize pool.length)) with pool, closed := false })
  | .replacing (i :: rest) failures =>
    let (failures, fleet) := release i failures o.fleet
    (.replacing rest failures, { o with fleet })
  | .replacing [] failures =>
    match Output.closing failures with
    | .ok () => (.done (.connected (.ok ())), o)
    | .error e => (.done (.connected (.ok ())), o.note (.replacedNotClosed e))
  | .write records =>
    match Batch.encode o.settings records with
    | .error refusal => (.done (.written (.error (.encoding refusal))), o)
    | .ok b =>
      if b.isEmpty then (.done (.written (.ok ⟨none, 0, 0⟩)), o)
      else
        let o := o.note (.encoded b.size)
        if o.pool = [] then (.preparing b, o) else begin b o
  | .preparing b => begin b o.prepare
  | .dispatching d =>
    match d.step o.fleet with
    | (.inl d, fleet) => (.dispatching d, { o with fleet })
    | (.inr verdict, fleet) =>
      let (result, o) := { o with fleet }.conclude d.batch.size verdict
      (.done (.written result), o)
  | .close =>
    (.closing o.pool [], { (o.note (.poolSize 0)) with pool := [], closed := true })
  | .closing (i :: rest) failures =>
    let (failures, fleet) := release i failures o.fleet
    (.closing rest failures, { o with fleet })
  | .closing [] failures => (.done (.closed (Output.closing failures)), o)
  | .done answer => (.done answer, o)

end Call

/-- Calls under way on one output. -/
structure Calls (φ τ ω : Type) where
  output : Output φ τ ω
  calls : List Call

namespace Calls

variable [Factory φ τ ω]

/-- Let one of the calls make a step. -/
def step (i : Nat) (s : Calls φ τ ω) : Calls φ τ ω :=
  match s.calls[i]? with
  | none => s
  | some c =>
    let (c, output) := c.step s.output
    ⟨output, s.calls.set i c⟩

/-- Let calls make steps in the order of a list. -/
def run (choices : List Nat) (s : Calls φ τ ω) : Calls φ τ ω :=
  choices.foldl (fun s i => s.step i) s

end Calls

end PointRelay
