import PointRelay.Proofs.Fleet.Story
import PointRelay.Proofs.Output.Recording

/-!
# What actions keep up

An action of an output is made of closes, builds and notes of its own, and a write that has
something to send ends in a trial and one note on its verdict. What closes, builds and the other
notes keep of the fleet holds after every other action, and before the trial of such a write.
-/

namespace PointRelay

/-- A note on neither a batch or a database nor on how a write ended. -/
def Note.isQuiet (n : Note) : Bool := !n.isTrial && !n.isOutcome

/-- A write had something to send, and a member took it. -/
def Answer.isDelivered : Answer → Bool
  | .written (.ok report) => report.endpoint.isSome
  | .written (.error _) | .connected _ | .closed _ => false

/-- A write had something to send, and no member took it. -/
def Answer.isExhausted : Answer → Bool
  | .written (.error (.poolExhausted _ _)) => true
  | .written _ | .connected _ | .closed _ => false

/-- Makers of pools whose members have counted nothing yet, and who note nothing of batches and
databases. -/
class Untried (φ : Type) {τ ω : Type} [Factory φ τ ω] : Prop where
  counters_zero : ∀ (f : φ) (net : ω) (ms : List (Member τ)),
    (Factory.build f net).answer = .ok ms → ∀ m ∈ ms, m.counters = .zero
  notes_quiet : ∀ (f : φ) (net : ω), ∀ n ∈ (Factory.build f net).notes, n.isQuiet = true

instance : Untried Prepared where
  counters_zero f _ ms built m mem := by
    change f.build.answer = .ok ms at built
    unfold Prepared.build at built
    split at built
    · cases built
      cases mem
    · cases built
    · cases built
      obtain ⟨made, there, rfl⟩ := List.mem_map.mp mem
      obtain ⟨t, -, rfl⟩ := List.mem_map.mp there
      rfl
  notes_quiet f _ n mem := by
    change n ∈ f.build.notes at mem
    unfold Prepared.build at mem
    split at mem
    · cases mem
    · cases mem
    · obtain ⟨t, there, mem⟩ := List.mem_flatMap.mp (List.mem_reverse.mp mem)
      obtain ⟨t, -, rfl⟩ := List.mem_map.mp there
      obtain rfl := List.mem_singleton.mp mem
      rfl

variable {φ τ ω : Type}

instance [Factory φ τ ω] [untried : Untried φ] : Untried (Recorder φ) where
  counters_zero r net ms built m mem := by
    change (Factory.build r.factory net).answer.map (List.map Member.recorded) = .ok ms at built
    cases answer : (Factory.build r.factory net).answer with
    | error e =>
      rw [answer] at built
      cases built
    | ok plain =>
      rw [answer] at built
      obtain rfl := Except.ok.inj built
      obtain ⟨m, there, rfl⟩ := List.mem_map.mp mem
      exact untried.counters_zero r.factory net plain answer m there
  notes_quiet r net := untried.notes_quiet r.factory net

namespace Output

variable [Transport τ ω] [Factory φ τ ω]

/-- What closes, builds and quiet notes keep of a fleet. -/
structure Upkeep (φ : Type) [Factory φ τ ω] (R : Fleet τ ω → Prop) : Prop where
  close : ∀ {f : Fleet τ ω} {i : Nat} {s : Focus τ ω}, f.focus? i = some s → R f →
    R (f.put i (s.close.2.told s.close.1))
  note : ∀ {f : Fleet τ ω} {n : Note}, n.isQuiet = true → R f → R (f.note n)
  build : ∀ o : Output φ τ ω, R o.fleet → R o.build.2.fleet

namespace Upkeep

variable {R : Fleet τ ω → Prop} {o : Output φ τ ω}

theorem readied (upkeep : Upkeep φ R) (b : Batch) (holds : R o.fleet) :
    R (o.readied b).fleet := by
  have noted : R (o.note (.encoded b.size)).fleet := upkeep.note rfl holds
  unfold Output.readied prepare
  split
  · exact noted
  · have built := upkeep.build _ noted
    cases answer : (o.note (.encoded b.size)).build with
    | mk result p =>
      rw [answer] at built
      cases result with
      | error e => exact upkeep.note rfl built
      | ok pool => exact upkeep.note rfl (upkeep.note rfl built)

theorem noteReplaced (upkeep : Upkeep φ R) (failures : List ConnectionError)
    (holds : R o.fleet) : R (o.noteReplaced failures).fleet := by
  cases failures with
  | nil => exact holds
  | cons e rest => exact upkeep.note rfl holds

/-- What an upkeep keeps holds after an action, or before the trial of a write that is concluded by
its verdict. -/
theorem step (upkeep : Upkeep φ R) {p : Output φ τ ω} {a : Action} {answer : Answer}
    (step : Step o a answer p) (holds : R o.fleet) :
    (R p.fleet ∧ answer.isDelivered = false ∧ answer.isExhausted = false) ∨
      ∃ (b : Batch) (poolSize : Nat) (places : List Nat) (v : Verdict) (f : Fleet τ ω)
        (q : Output φ τ ω), R f ∧
        Fleet.Tried o.settings.database b poolSize 0 places f v q.fleet ∧
        p = (q.conclude b.size v).2 ∧ answer = .written (q.conclude b.size v).1 := by
  cases step with
  | refused failed => exact Or.inl ⟨upkeep.build o holds, rfl, rfl⟩
  | @connected pool answers g built asked =>
    have noted : R (o.build.2.fleet.note (.poolSize pool.length)) :=
      upkeep.note rfl (upkeep.build o holds)
    have closed : R g := asked.keeps upkeep.close noted
    exact Or.inl ⟨upkeep.noteReplaced (o := { o.build.2 with fleet := g, pool, closed := false })
      _ closed, rfl, rfl⟩
  | unencoded refused => exact Or.inl ⟨holds, rfl, rfl⟩
  | nothing => exact Or.inl ⟨holds, rfl, rfl⟩
  | @written records b places v g orders encoded something order tried =>
    exact Or.inr ⟨b, (o.readied b).pool.length, places, v, (o.readied b).fleet,
      { o.readied b with fleet := g, orders }, upkeep.readied b holds, tried, rfl, rfl⟩
  | @closed answers g asked =>
    have noted : R (o.fleet.note (.poolSize 0)) := upkeep.note rfl holds
    exact Or.inl ⟨asked.keeps upkeep.close noted, rfl, rfl⟩

end Upkeep

theorem settings_step {o p : Output φ τ ω} {a : Action} {answer : Answer}
    (step : Step o a answer p) : p.settings = o.settings := by
  cases step with
  | refused failed => rw [build_eq]
  | @connected pool answers g built asked =>
    obtain ⟨journal, same⟩ := noteReplaced_eq (answers.filterMap failure?)
      { o.build.2 with fleet := g, pool, closed := false }
    rw [same, build_eq]
  | unencoded refused => rfl
  | nothing => rfl
  | @written records b places v g orders encoded something order tried =>
    obtain ⟨n, same⟩ := conclude_snd b.size v { o.readied b with fleet := g, orders }
    rw [same]
    exact settings_readied b o
  | closed asked => rfl

end Output

end PointRelay
