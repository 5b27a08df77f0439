import PointRelay.Proofs.Fleet.Recording
import PointRelay.Proofs.Output.Run

/-!
# Recorded outputs

A recorder hands out the pools of another maker of pools, with transports that are recorded from the
start. An output over a recorder answers as the output over that maker does, and forgetting its
records gives what is left there, after every run.
-/

namespace PointRelay

/-- A maker of pools whose transports are recorded. -/
structure Recorder (φ : Type) where
  factory : φ

variable {φ τ ω : Type}

/-- A member to whose transport nothing happened yet. -/
def Member.recorded (m : Member τ) : Member (Recorded τ) :=
  ⟨m.endpoint, .fresh m.transport, m.phase, m.counters⟩

theorem Member.map_forget_recorded (ms : List (Member τ)) :
    ms.map (Member.forget ∘ Member.recorded) = ms := by
  have same : (Member.forget ∘ Member.recorded : Member τ → Member τ) = id := rfl
  rw [same, List.map_id]

instance [Factory φ τ ω] : Factory (Recorder φ) (Recorded τ) ω where
  build r net :=
    let b := Factory.build r.factory net
    ⟨b.answer.map (List.map Member.recorded), ⟨b.factory⟩, b.net, b.notes⟩

namespace Output

def forget (o : Output (Recorder φ) (Recorded τ) ω) : Output φ τ ω :=
  ⟨o.settings, o.factory.factory, o.fleet.forget, o.pool, o.closed, o.orders⟩

theorem forget_note (n : Note) (o : Output (Recorder φ) (Recorded τ) ω) :
    (o.note n).forget = o.forget.note n := rfl

theorem forget_conclude (points : Nat) (v : Verdict) (o : Output (Recorder φ) (Recorded τ) ω) :
    o.forget.conclude points v = ((o.conclude points v).1, (o.conclude points v).2.forget) := by
  cases v <;> rfl

section
variable [Factory φ τ ω]

theorem forget_build (o : Output (Recorder φ) (Recorded τ) ω) :
    o.forget.build = (o.build.1, o.build.2.forget) := by
  cases answer : (Factory.build o.factory.factory o.fleet.net).answer with
  | error e => simp [build, Factory.build, answer, Except.map, forget, Fleet.forget]
  | ok ms =>
    simp [build, Factory.build, answer, Except.map, Fleet.add, forget, Fleet.forget,
      Member.map_forget_recorded]

/-- A recorder hands out the members of the other maker, with nothing recorded yet. -/
theorem handout_recorded (o : Output (Recorder φ) (Recorded τ) ω) :
    o.handout = o.forget.handout.map Member.recorded := by
  cases answer : (Factory.build o.factory.factory o.fleet.net).answer <;>
    simp [handout, Factory.build, forget, Fleet.forget, answer, Except.map]

theorem rebuilt_recorded (records : List Record) (o : Output (Recorder φ) (Recorded τ) ω) :
    o.rebuilt records = (o.forget.rebuilt records).map Member.recorded := by
  have same : o.forget.Rebuilds records ↔ o.Rebuilds records := Iff.rfl
  unfold rebuilt
  by_cases rebuilds : o.Rebuilds records
  · rw [if_pos rebuilds, if_pos (same.mpr rebuilds), handout_recorded]
  · rw [if_neg rebuilds, if_neg (mt same.mp rebuilds), List.map_nil]

theorem forget_prepare (o : Output (Recorder φ) (Recorded τ) ω) :
    o.prepare.forget = o.forget.prepare := by
  unfold prepare
  by_cases ready : o.pool ≠ [] ∨ o.closed = true
  · have same : o.forget.pool ≠ [] ∨ o.forget.closed = true := ready
    rw [if_pos ready, if_pos same]
  · have same : ¬ (o.forget.pool ≠ [] ∨ o.forget.closed = true) := ready
    rw [if_neg ready, if_neg same, forget_build]
    rcases o.build with ⟨e | pool, p⟩ <;> rfl

end

variable [Transport τ ω]

theorem forget_dispatch (b : Batch) (o : Output (Recorder φ) (Recorded τ) ω) :
    o.forget.dispatch b = ((o.dispatch b).1, (o.dispatch b).2.forget) := by
  unfold dispatch
  by_cases empty : o.pool = []
  · have same : o.forget.pool = [] := empty
    rw [if_pos empty, if_pos same]
  · have same : ¬ o.forget.pool = [] := empty
    rw [if_neg empty, if_neg same]
    simp only [forget, Fleet.dispatch, Fleet.forget_tryAll]

theorem forget_close (o : Output (Recorder φ) (Recorded τ) ω) :
    o.forget.close = (o.close.1, o.close.2.forget) := by
  have told : (o.fleet.note (.poolSize 0)).forget = o.forget.fleet.note (.poolSize 0) := rfl
  have pool : o.forget.pool = o.pool := rfl
  simp only [close, ← told, pool, Fleet.forget_closeAll]
  rfl

variable [Factory φ τ ω]

theorem forget_connect (o : Output (Recorder φ) (Recorded τ) ω) :
    o.forget.connect = (o.connect.1, o.connect.2.forget) := by
  unfold connect
  rw [forget_build]
  rcases o.build with ⟨e | pool, p⟩
  · rfl
  · have told : (p.fleet.note (.poolSize pool.length)).forget =
        p.forget.fleet.note (.poolSize pool.length) := rfl
    have places : p.forget.pool = p.pool := rfl
    simp only [← told, places, Fleet.forget_closeAll]
    rcases (p.fleet.note (.poolSize pool.length)).closeAll p.pool with ⟨failures, g⟩
    cases failures <;> rfl

theorem forget_write (records : List Record) (o : Output (Recorder φ) (Recorded τ) ω) :
    o.forget.write records = ((o.write records).1, (o.write records).2.forget) := by
  have settings : o.forget.settings = o.settings := rfl
  unfold write
  rw [settings]
  cases Batch.encode o.settings records with
  | error refusal => rfl
  | ok b =>
    by_cases nothing : b.isEmpty = true
    · simp only [nothing, if_true]
    · simp only [nothing, ← forget_note, ← forget_prepare, forget_dispatch, forget_conclude]
      rfl

theorem forget_perform (a : Action) (o : Output (Recorder φ) (Recorded τ) ω) :
    o.forget.perform a = ((o.perform a).1, (o.perform a).2.forget) := by
  cases a with
  | connect => simp only [perform, forget_connect]
  | write records => simp only [perform, forget_write]
  | close => simp only [perform, forget_close]

/-- A run over recorded connections goes the way of the run without records. -/
theorem forget_run (actions : List Action) (o : Output (Recorder φ) (Recorded τ) ω) :
    run actions o.forget = ((run actions o).1, (run actions o).2.forget) := by
  induction actions generalizing o with
  | nil => rfl
  | cons a rest ih => simp only [run, forget_perform, ih]

/-- What a run over recorded connections builds is what the run without records builds. -/
theorem intakes_recorded (actions : List Action) (o : Output (Recorder φ) (Recorded τ) ω) :
    intakes actions o = (intakes actions o.forget).map Member.recorded := by
  induction actions generalizing o with
  | nil => rfl
  | cons a rest ih =>
    have first : o.intake a = (o.forget.intake a).map Member.recorded := by
      cases a with
      | connect => exact o.handout_recorded
      | write records => exact o.rebuilt_recorded records
      | close => rfl
    simp only [intakes, forget_perform, first, ih, List.map_append]

end Output

end PointRelay
