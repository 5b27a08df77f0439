import PointRelay.Proofs.Fleet.Moves
import PointRelay.Proofs.Fleet.Projection

/-!
# Recorded transports

A recorded transport is a transport that keeps what it was asked for and what it answered. Records
are read by nothing, so a pool of recorded transports goes exactly the way of the pool without
them: forgetting the records is a projection.
-/

namespace PointRelay

/-- What happened to a transport: an operation, and its answer. -/
inductive Happening where
  | written (answer : Except ConnectionError Unit)
  | created (answer : Except ConnectionError Unit)
  | closed (answer : Except ConnectionError Unit)

/-- A transport and what happened to it, newest first. -/
structure Recorded (τ : Type) where
  transport : τ
  history : List Happening

variable {τ ω : Type}

namespace Recorded

/-- A transport to which nothing happened yet. -/
def fresh (t : τ) : Recorded τ := ⟨t, []⟩

/-- The effect of an operation on the transport, with its answer recorded. -/
def record (happening : Except ConnectionError Unit → Happening) (r : Recorded τ)
    (e : Effect τ ω) : Effect (Recorded τ) ω :=
  ⟨e.answer, ⟨e.transport, happening e.answer :: r.history⟩, e.net⟩

instance [Transport τ ω] : Transport (Recorded τ) ω where
  endpoint r := Transport.endpoint r.transport
  write b r net := r.record .written (Transport.write b r.transport net)
  create database r net := r.record .created (Transport.create database r.transport net)
  close r net := r.record .closed (Transport.close r.transport net)
  latency r := Transport.latency r.transport

theorem projection [Transport τ ω] :
    Projection (Recorded.transport : Recorded τ → τ) (id : ω → ω) :=
  ⟨fun _ => rfl, fun _ _ _ => rfl, fun _ _ _ => rfl, fun _ _ => rfl⟩

end Recorded

def Member.forget (m : Member (Recorded τ)) : Member τ :=
  ⟨m.endpoint, m.transport.transport, m.phase, m.counters⟩

namespace Fleet

def forget (f : Fleet (Recorded τ) ω) : Fleet τ ω :=
  ⟨f.members.map Member.forget, f.net, f.journal⟩

theorem forget_pool (f : Fleet (Recorded τ) ω) : f.forget.pool = f.pool := by
  simp [pool, forget]

variable [Transport τ ω]

theorem forget_tryAll (database : String) (b : Batch) (poolSize : Nat) (places : List Nat)
    (attempts : Nat) (f : Fleet (Recorded τ) ω) :
    f.forget.tryAll database b poolSize attempts places =
      ((f.tryAll database b poolSize attempts places).1,
        (f.tryAll database b poolSize attempts places).2.forget) :=
  Recorded.projection.tryAll database b poolSize places attempts f

theorem forget_closeAll (places : List Nat) (f : Fleet (Recorded τ) ω) :
    f.forget.closeAll places = ((f.closeAll places).1, (f.closeAll places).2.forget) :=
  Recorded.projection.closeAll places f

theorem forget_ready (transports : List τ) (net : ω) :
    (ready (transports.map Recorded.fresh) net).forget = ready transports net := by
  simp only [ready, forget, List.map_map, List.flatMap_map]
  rfl

theorem forget_perform (move : Move) (f : Fleet (Recorded τ) ω) :
    (f.perform move).forget = f.forget.perform move := by
  cases move with
  | dispatch database b order =>
    simp only [perform, dispatch, forget_pool, forget_tryAll]
  | recover database i => exact map_on _ _ (Recorded.projection.recover database) i f
  | close i => exact map_on _ _ Recorded.projection.closed i f
  | closeAll => rw [perform, perform, forget_pool, forget_closeAll]

/-- A run of recorded transports goes the way of the run without records. -/
theorem forget_run (moves : List Move) (f : Fleet (Recorded τ) ω) :
    (f.run moves).forget = f.forget.run moves := by
  induction moves generalizing f with
  | nil => rfl
  | cons move rest ih =>
    rw [run, List.foldl_cons, ← run, ih, forget_perform]
    rfl

end Fleet

end PointRelay
