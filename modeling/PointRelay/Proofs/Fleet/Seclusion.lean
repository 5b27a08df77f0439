import PointRelay.Proofs.Fleet.Trial
import PointRelay.Scripted

/-!
# Transports that share nothing

Each transport sees a part of the network. What it does depends on its part alone and leaves the
parts of others as they are, so an attempt comes to the same on every network that looks alike to
the member that is tried: the same answer, the same member and the same notes.
-/

namespace PointRelay

variable {τ ω : Type}

/-- Two effects with the same answer that leave the same transport, to which their networks look
alike. -/
structure Effect.SameFor {π : Type} (part : τ → ω → π) (e e' : Effect τ ω) : Prop where
  answer : e.answer = e'.answer
  transport : e.transport = e'.transport
  part : part e.transport e.net = part e'.transport e'.net

/-- Transports that each see a part of the network. What one does depends on its part alone, and
two that are apart leave the parts of one another as they are. -/
class Secluded (τ : Type) (ω : outParam Type) extends Transport τ ω where
  Part : Type
  part : τ → ω → Part
  Apart : τ → τ → Prop
  apart_symm {t u : τ} : Apart t u → Apart u t
  write_same (b : Batch) (t : τ) {net net' : ω} : part t net = part t net' →
    (Transport.write b t net).SameFor part (Transport.write b t net')
  write_apart (b : Batch) {t u : τ} (net : ω) : Apart t u →
    part u (Transport.write b t net).net = part u net ∧
      Apart (Transport.write b t net).transport u
  create_same (database : String) (t : τ) {net net' : ω} : part t net = part t net' →
    (Transport.create database t net).SameFor part (Transport.create database t net')
  create_apart (database : String) {t u : τ} (net : ω) : Apart t u →
    part u (Transport.create database t net).net = part u net ∧
      Apart (Transport.create database t net).transport u

/-- Scripted transports have all their state in themselves. -/
instance : Secluded Scripted Unit where
  Part := Unit
  part _ _ := ()
  Apart _ _ := True
  apart_symm _ := trivial
  write_same _ _ _ _ _ := ⟨rfl, rfl, rfl⟩
  write_apart _ _ _ _ _ := ⟨rfl, trivial⟩
  create_same _ _ _ _ _ := ⟨rfl, rfl, rfl⟩
  create_apart _ _ _ _ _ := ⟨rfl, trivial⟩

variable [Secluded τ ω]

namespace Focus

/-- What a creation does to the transport and the network. -/
def created (database : String) (s : Focus τ ω) : Effect τ ω :=
  Transport.create database s.member.transport s.net

theorem recover_eq (database : String) (s : Focus τ ω) :
    s.recover database = (ensured (s.created database).answer,
      ((s.move .recovering).carry (s.created database)).settle database
        (ensured (s.created database).answer)) := by
  simp [recover, ensure, create, operate, created, carry]

/-- The same member on networks that look alike to it, with the same notes added to two journals. -/
structure Same (j k : Journal) (s t : Focus τ ω) : Prop where
  member : s.member = t.member
  part : Secluded.part s.member.transport s.net = Secluded.part t.member.transport t.net
  notes : ∃ new, s.journal = new ++ j ∧ t.journal = new ++ k

namespace Same

variable {j k : Journal} {s t : Focus τ ω}

theorem note (same : Same j k s t) (n : Note) : Same j k (s.note n) (t.note n) := by
  obtain ⟨new, first, second⟩ := same.notes
  refine ⟨same.member, same.part, n :: new, ?_, ?_⟩
  · simp [Focus.note, first]
  · simp [Focus.note, second]

theorem count (same : Same j k s t) (f : Counters → Counters) :
    Same j k (s.count f) (t.count f) := by
  refine ⟨?_, same.part, same.notes⟩
  simp [Focus.count, same.member]

theorem move (same : Same j k s t) (next : Phase) : Same j k (s.move next) (t.move next) := by
  obtain ⟨new, first, second⟩ := same.notes
  unfold Focus.move
  rw [← same.member]
  split
  · exact same
  · refine ⟨rfl, ?_, .phaseChanged s.member.endpoint s.member.phase next :: new, ?_, ?_⟩
    · exact same.part.trans (by rw [same.member])
    · simp [first]
    · simp [second]

theorem restore (same : Same j k s t) : Same j k s.restore t.restore := by
  unfold Focus.restore
  rw [← same.member]
  split
  · exact same.move .ready
  · exact same

theorem settle (same : Same j k s t) (database : String) (answer : Except ConnectionError Unit) :
    Same j k (s.settle database answer) (t.settle database answer) := by
  have endpoint : s.member.endpoint = t.member.endpoint := congrArg _ same.member
  cases answer with
  | ok =>
    simp only [Focus.settle, endpoint]
    exact ((same.count _).move .ready).note _
  | error e =>
    simp only [Focus.settle, endpoint]
    exact ((same.count _).move .degraded).note _

/-- What an operation leaves is the same again, if its effect is. -/
theorem carry (same : Same j k s t) {e e' : Effect τ ω} (effect : e.SameFor Secluded.part e') :
    Same j k (s.carry e) (t.carry e') := by
  refine ⟨?_, effect.part, same.notes⟩
  simp [Focus.carry, same.member, effect.transport]

theorem succeed (same : Same j k s t) : Same j k s.succeed t.succeed := by
  have endpoint : s.member.endpoint = t.member.endpoint := congrArg _ same.member
  simp only [Focus.succeed, endpoint]
  exact (same.count _).note _

theorem fail (same : Same j k s t) (e : ConnectionError) : Same j k (s.fail e) (t.fail e) := by
  have endpoint : s.member.endpoint = t.member.endpoint := congrArg _ same.member
  simp only [Focus.fail, endpoint]
  exact (same.count _).note _

theorem written (same : Same j k s t) (b : Batch) :
    (s.written b).SameFor Secluded.part (t.written b) := by
  have seen := same.part
  rw [same.member] at seen
  unfold Focus.written
  rw [same.member]
  exact Secluded.write_same b _ seen

theorem recover (same : Same j k s t) (database : String) :
    Same j k (s.recover database).2 (t.recover database).2 := by
  have created : (s.created database).SameFor Secluded.part (t.created database) := by
    have seen := same.part
    rw [same.member] at seen
    unfold Focus.created
    rw [same.member]
    exact Secluded.create_same database _ seen
  rw [recover_eq, recover_eq, created.answer]
  exact ((same.move .recovering).carry created).settle database _

theorem attempt (same : Same j k s t) (database : String) (b : Batch) :
    (s.attempt database b).1 = (t.attempt database b).1 ∧
      Same j k (s.attempt database b).2 (t.attempt database b).2 := by
  have written := same.written b
  refine ⟨by rw [attempt_answer, attempt_answer, written.answer], ?_⟩
  have carried := same.carry written
  cases answer : (s.written b).answer with
  | ok =>
    rw [attempt_of_ok answer, attempt_of_ok (written.answer ▸ answer)]
    exact carried.succeed.restore
  | error e =>
    rw [attempt_of_error answer, attempt_of_error (written.answer ▸ answer)]
    split
    · exact (carried.fail e).recover database
    · exact carried.fail e

end Same

/-- An attempt leaves alone what is apart. -/
theorem attempt_apart (database : String) (b : Batch) {s : Focus τ ω} {u : τ}
    (apart : Secluded.Apart s.member.transport u) :
    Secluded.part u (s.attempt database b).2.net = Secluded.part u s.net ∧
      Secluded.Apart (s.attempt database b).2.member.transport u := by
  have written := Secluded.write_apart b s.net apart
  have created := Secluded.create_apart database (s.written b).net written.2
  rcases trial : s.attempt database b with ⟨e | ⟨⟩, t⟩
  · obtain ⟨-, -, ⟨-, transport, net⟩ | ⟨-, transport, net⟩⟩ := attempt_error trial
    · rw [transport, net]
      exact written
    · rw [transport, net]
      exact ⟨created.1.trans written.1, created.2⟩
  · obtain ⟨-, -, transport, net⟩ := attempt_ok trial
    rw [transport, net]
    exact written

end Focus

end PointRelay
