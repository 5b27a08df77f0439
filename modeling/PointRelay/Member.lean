import PointRelay.Journal
import PointRelay.Transport

/-!
# Members of a pool

A member is a transport with its phase and its counters. An operation on a member may change that
member, the network and the journal, and nothing else: these three together are the focus on which
the operations here are defined.
-/

namespace PointRelay

structure Counters where
  writes : Nat
  failures : Nat
  recoveries : Nat
  recoveryFailures : Nat
deriving DecidableEq, Repr

def Counters.zero : Counters := ⟨0, 0, 0, 0⟩

structure Member (τ : Type) where
  endpoint : String
  transport : τ
  phase : Phase
  counters : Counters

structure Focus (τ ω : Type) where
  member : Member τ
  net : ω
  journal : Journal

variable {τ ω : Type}

namespace Focus

/-- Put a note into the journal. -/
def note (n : Note) (s : Focus τ ω) : Focus τ ω := { s with journal := n :: s.journal }

/-- Change the counters. -/
def count (f : Counters → Counters) (s : Focus τ ω) : Focus τ ω :=
  { s with member := { s.member with counters := f s.member.counters } }

/-- Move the member to a phase. A closed member stays closed, and only a real change is noted. -/
def move (next : Phase) (s : Focus τ ω) : Focus τ ω :=
  if s.member.phase = .closed ∨ s.member.phase = next then s
  else
    { s with
      member := { s.member with phase := next }
      journal := .phaseChanged s.member.endpoint s.member.phase next :: s.journal }

/-- The answer of an operation of the transport, and what it leaves. -/
def operate (op : τ → ω → Effect τ ω) (s : Focus τ ω) :
    Except ConnectionError Unit × Focus τ ω :=
  let e := op s.member.transport s.net
  (e.answer, { s with member := { s.member with transport := e.transport }, net := e.net })

/-- The answer to a creation, where a database that is there already is what was wanted. -/
def ensured : Except ConnectionError Unit → Except ConnectionError Unit
  | .error (.alreadyExists _ _) => .ok ()
  | answer => answer

/-- Count a recovery, move on by its outcome and note it. -/
def settle (database : String) (answer : Except ConnectionError Unit) (s : Focus τ ω) :
    Focus τ ω :=
  match answer with
  | .ok () =>
    ((s.count fun c => { c with recoveries := c.recoveries + 1 }).move .ready).note
      (.recovered s.member.endpoint)
  | .error e =>
    ((s.count fun c => { c with
        recoveries := c.recoveries + 1
        recoveryFailures := c.recoveryFailures + 1 }).move .degraded).note
      (.recoveryFailed s.member.endpoint database e)

/-- A degraded member that took a batch is ready again. -/
def restore (s : Focus τ ω) : Focus τ ω :=
  if s.member.phase = .degraded then s.move .ready else s

/-- Count a written batch. -/
def succeed (s : Focus τ ω) : Focus τ ω :=
  (s.count fun c => { c with writes := c.writes + 1 }).note (.accepted s.member.endpoint)

/-- Count a refused batch. -/
def fail (e : ConnectionError) (s : Focus τ ω) : Focus τ ω :=
  (s.count fun c => { c with failures := c.failures + 1 }).note (.refused s.member.endpoint e)

end Focus

variable [Transport τ ω]

/-- A member around a fresh transport. -/
def Member.new (t : τ) : Member τ := ⟨Transport.endpoint t, t, .unconnected, .zero⟩

/-- A member that is ready from the start, and the notes of its getting ready. -/
def Member.ready (t : τ) : Member τ × Journal :=
  let m := Member.new t
  ({ m with phase := .ready }, [.phaseChanged m.endpoint m.phase .ready])

namespace Focus

/-- Hand a batch to the transport. -/
def write (b : Batch) : Focus τ ω → Except ConnectionError Unit × Focus τ ω :=
  operate (Transport.write b)

/-- Ask the transport to create a database. -/
def create (database : String) : Focus τ ω → Except ConnectionError Unit × Focus τ ω :=
  operate (Transport.create database)

/-- Close the transport. The member is closed whatever the answer. -/
def close (s : Focus τ ω) : Except ConnectionError Unit × Focus τ ω :=
  let (answer, s) := s.operate Transport.close
  (answer, { s with member := { s.member with phase := .closed } })

/-- Make sure that the database exists. -/
def ensure (database : String) (s : Focus τ ω) : Except ConnectionError Unit × Focus τ ω :=
  let (answer, s) := s.create database
  (ensured answer, s)

/-- Create the database of a member whose write found it missing. -/
def recover (database : String) (s : Focus τ ω) : Except ConnectionError Unit × Focus τ ω :=
  let (answer, s) := (s.move .recovering).ensure database
  (answer, s.settle database answer)

/-- Try to write a batch. A missing database is created for the next one. -/
def attempt (database : String) (b : Batch) (s : Focus τ ω) :
    Except ConnectionError Unit × Focus τ ω :=
  match s.write b with
  | (.ok (), s) => (.ok (), s.succeed.restore)
  | (.error e, s) =>
    let s := s.fail e
    (.error e, if e.failureClass = .schemaMissing then (s.recover database).2 else s)

end Focus

end PointRelay
