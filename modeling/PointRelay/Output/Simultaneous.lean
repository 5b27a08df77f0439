import PointRelay.Output.Call

/-!
# Simultaneous writes

Several writes begin in order, each running until it is done or has to wait for a transport. From
then on the one that is due first goes on; of two that are due at once, the one that has waited
longer.
-/

namespace PointRelay

variable {φ τ ω : Type} [Transport τ ω] [Factory φ τ ω]

namespace Calls

/-- A bound on the steps to come of a call that dispatches. -/
def remaining (i : Nat) (s : Calls φ τ ω) : Nat :=
  match s.calls[i]? with
  | some (.dispatching d) => d.remaining
  | _ => 0

/-- Let a dispatch go on for at most `fuel` steps; if it comes to a step that takes time, say how
long. -/
def proceed (i : Nat) : Nat → Calls φ τ ω → Option Nat × Calls φ τ ω
  | 0, s => (none, s)
  | fuel + 1, s =>
    match s.calls[i]? with
    | some (.dispatching d) =>
      let ms := d.wait s.output.fleet
      if ms = 0 then proceed i fuel (s.step i) else (some ms, s)
    | _ => (none, s)

/-- Begin a write and let it go on. -/
def enter (i : Nat) (s : Calls φ τ ω) : Option Nat × Calls φ τ ω :=
  let s := s.step i
  let s := match s.calls[i]? with
    | some (.preparing _) => s.step i
    | _ => s
  s.proceed i (s.remaining i)

/-- Make the step that a call waited for, and let it go on. -/
def resume (i : Nat) (s : Calls φ τ ω) : Option Nat × Calls φ τ ω :=
  let s := s.step i
  s.proceed i (s.remaining i)

/-- Put a call behind all that are due no later. -/
def enqueue (due i : Nat) : List (Nat × Nat) → List (Nat × Nat)
  | [] => [(due, i)]
  | (due', j) :: rest =>
    if due' ≤ due then (due', j) :: enqueue due i rest else (due, i) :: (due', j) :: rest

/-- Put a call that has to wait from now on into the queue. -/
def await (now i : Nat) (wait : Option Nat) (queue : List (Nat × Nat)) : List (Nat × Nat) :=
  match wait with
  | none => queue
  | some ms => enqueue (now + ms) i queue

/-- Begin calls in order. -/
def enterAll : List Nat → List (Nat × Nat) → Calls φ τ ω → List (Nat × Nat) × Calls φ τ ω
  | [], queue, s => (queue, s)
  | i :: rest, queue, s =>
    let (wait, s) := s.enter i
    enterAll rest (await 0 i wait queue) s

/-- Let waiting calls go on, whichever is due first, for at most `fuel` turns. -/
def drain : Nat → List (Nat × Nat) → Calls φ τ ω → Calls φ τ ω
  | 0, _, s => s
  | _, [], s => s
  | fuel + 1, (due, i) :: queue, s =>
    let (wait, s) := s.resume i
    drain fuel (await due i wait queue) s

end Calls

/-- What a write that is done answers. -/
def Call.report? : Call → Option (Except OutputError Report)
  | .done (.written result) => some result
  | _ => none

/-- Write several lists of records at the same time. -/
def Output.writeAll (batches : List (List Record)) (o : Output φ τ ω) :
    List (Except OutputError Report) × Output φ τ ω :=
  let places := List.range batches.length
  let (queue, s) := Calls.enterAll places [] ⟨o, batches.map .write⟩
  let s := s.drain (places.foldl (fun n i => n + s.remaining i) 0) queue
  (s.calls.filterMap Call.report?, s.output)

end PointRelay
