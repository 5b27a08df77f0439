import PointRelay.Output

/-!
# Scripted transports

A scripted transport stands for an endpoint without a network. Its writes play a script first and
then fall back to one outcome, where an endpoint that needs its database reports it missing until it
was created. It counts what was asked of it and keeps the batches that it took.
-/

namespace PointRelay

open Time

namespace Scripted

inductive Outcome where
  | ok
  | schemaMissing
  | timeout
  | rejected
deriving DecidableEq, Repr

/-- What was asked of a transport so far. -/
structure Probe where
  writes : Nat
  /-- The batches of the writes that succeeded, newest first. -/
  accepted : List Batch
  creates : Nat
  closes : Nat
  databaseExists : Bool
deriving DecidableEq, Repr

/-- The points that were accepted. -/
def Probe.points (p : Probe) : Nat := p.accepted.foldl (fun n b => n + b.size) 0

end Scripted

structure Scripted where
  name : String
  /-- The outcomes of the writes to come. -/
  script : List Scripted.Outcome
  /-- The outcome of the writes behind the script. -/
  fallback : Scripted.Outcome
  needsDatabase : Bool
  failCreate : Bool
  failClose : Bool
  /-- The milliseconds that a write takes. -/
  delay : Nat
  probe : Scripted.Probe
deriving DecidableEq, Repr

namespace Scripted

/-- A transport whose database exists and whose writes all have one outcome. -/
def withFallback (name : String) (fallback : Outcome) : Scripted :=
  ⟨name, [], fallback, false, false, false, 0, ⟨0, [], 0, 0, true⟩⟩

def healthy (name : String) : Scripted := withFallback name .ok

def timingOut (name : String) : Scripted := withFallback name .timeout

def rejecting (name : String) : Scripted := withFallback name .rejected

/-- A transport that takes batches once its database was created. -/
def missingDatabase (name : String) : Scripted :=
  { healthy name with needsDatabase := true, probe := ⟨0, [], 0, 0, false⟩ }

/-- The outcome of the next write. -/
def outcome (t : Scripted) : Outcome :=
  match t.script with
  | o :: _ => o
  | [] => if t.needsDatabase && !t.probe.databaseExists then .schemaMissing else t.fallback

/-- What a write of an outcome answers. -/
def Outcome.answer (name database : String) : Outcome → Except ConnectionError Unit
  | ok => .ok ()
  | schemaMissing => .error (.schemaMissing name database)
  | timeout => .error (.timeout name (.seconds 5))
  | rejected => .error (.rejected name 400 "unable to parse points")

def write (b : Batch) (t : Scripted) : Except ConnectionError Unit × Scripted :=
  let accepted := if t.outcome = .ok then b :: t.probe.accepted else t.probe.accepted
  (t.outcome.answer t.name b.settings.database,
    { t with
      script := t.script.tail
      probe := { t.probe with writes := t.probe.writes + 1, accepted } })

def create (database : String) (t : Scripted) : Except ConnectionError Unit × Scripted :=
  let probe := { t.probe with creates := t.probe.creates + 1 }
  if t.failCreate then (.error (.unreachable t.name "connection refused"), { t with probe })
  else
    (if t.probe.databaseExists then .error (.alreadyExists t.name database) else .ok (),
      { t with probe := { probe with databaseExists := true } })

def close (t : Scripted) : Except ConnectionError Unit × Scripted :=
  (if t.failClose then .error (.unreachable t.name "close failed") else .ok (),
    { t with probe := { t.probe with closes := t.probe.closes + 1 } })

instance : Transport Scripted Unit where
  endpoint := name
  write b t _ := let (answer, t) := t.write b; ⟨answer, t, ()⟩
  create database t _ := let (answer, t) := t.create database; ⟨answer, t, ()⟩
  close t _ := let (answer, t) := t.close; ⟨answer, t, ()⟩
  latency := delay

end Scripted

/-- Pools prepared beforehand, one for each build; behind the last all builds are empty. -/
structure Prepared where
  pools : List (Except OutputError (List Scripted))
  builds : Nat

namespace Prepared

def build (p : Prepared) : Built Prepared Scripted Unit :=
  let next : Prepared := ⟨p.pools.tail, p.builds + 1⟩
  match p.pools with
  | [] => ⟨.ok [], next, (), []⟩
  | .error e :: _ => ⟨.error e, next, (), []⟩
  | .ok ts :: _ =>
    let ready := ts.map Member.ready
    ⟨.ok (ready.map (·.1)), next, (), (ready.flatMap (·.2)).reverse⟩

instance : Factory Prepared Scripted Unit where
  build p _ := p.build

end Prepared

end PointRelay
