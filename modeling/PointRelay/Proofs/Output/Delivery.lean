import PointRelay.Proofs.Fleet.Ledger
import PointRelay.Proofs.Output.Run

/-!
# Delivery over whole runs

A write of valid records puts their batch into the ledger of one member of the pool, or into none.
Connecting and closing touch no ledger. So the points that all connections ever built have taken in
a run are the points that its writes reported.
-/

namespace PointRelay

/-- The points that an answer reports as written. -/
def Answer.points : Answer → Nat
  | .written (.ok report) => report.points
  | _ => 0

namespace Output

variable {φ τ ω : Type} [Ledger τ ω] [Factory φ τ ω]

/-- The batch of records without faults. -/
def batch (records : List Record) (o : Output φ τ ω) : Batch :=
  ⟨o.settings, records.map Record.toPoint⟩

/-- What a write of records without faults does to the connections. -/
structure DeliversOnceOrNot (records : List Record) (o : Output φ τ ω) : Prop where
  /-- A pool that is built first stands behind all connections, and is the pool from then on. -/
  current : o.fleet.members <+: (o.readied (o.batch records)).fleet.members ∧
    (o.write records).2.pool = (o.readied (o.batch records)).pool
  /-- One member of the pool takes the batch, once and alone, and is reported, or no connection
  takes it and the pool is reported as exhausted. -/
  once_or_not :
    (∃ i m attempts, i ∈ (o.readied (o.batch records)).pool ∧
      (o.readied (o.batch records)).fleet.members[i]? = some m ∧
      1 ≤ attempts ∧ attempts ≤ (o.readied (o.batch records)).pool.length ∧
      (o.write records).1 = .ok ⟨some m.endpoint, attempts, records.length⟩ ∧
      (o.write records).2.fleet.ledgers =
        (o.readied (o.batch records)).fleet.ledgers.set i (o.batch records :: m.accepted)) ∨
    ((o.write records).1 = .error (.poolExhausted (o.readied (o.batch records)).pool.length
        (o.readied (o.batch records)).pool.length) ∧
      (o.write records).2.fleet.ledgers = (o.readied (o.batch records)).fleet.ledgers)
  /-- A member that takes the batch whatever becomes of the network is enough. -/
  willing : ∀ i ∈ (o.readied (o.batch records)).pool, ∀ m,
    (o.readied (o.batch records)).fleet.members[i]? = some m →
    (∀ net, (Transport.write (o.batch records) m.transport net).answer = .ok ()) →
    ∃ report, (o.write records).1 = .ok report

theorem delivers_once_or_not {o : Output φ τ ω} (sound : o.Sound) {records : List Record}
    (something : records ≠ []) (faultless : ∀ r ∈ records, r.faults = []) :
    o.DeliversOnceOrNot records := by
  have encoded : Batch.encode o.settings records = .ok (o.batch records) :=
    Batch.encode_of_faultless o.settings faultless
  have size : (o.batch records).size = records.length := List.length_map ..
  have ready := sound.readied (o.batch records)
  obtain ⟨places, g, orders, order, tried, left⟩ := tried_dispatch ready (o.batch records)
  have write := write_of_encoded encoded (by cases records with
    | nil => exact absurd rfl something
    | cons r rest => rfl)
  rw [left] at write
  have kept : o.fleet.members <+: (o.readied (o.batch records)).fleet.members :=
    members_readied encoded something ▸ List.prefix_append ..
  have once := tried.onceOrNot order ready.distinct
  generalize ((o.readied (o.batch records)).dispatch (o.batch records)).1 = v at write once
  cases once with
  | @once i attempts m g member found first last taken =>
    have answer : (o.write records).1 = .ok ⟨some m.endpoint, attempts, records.length⟩ := by
      rw [write, ← size]
      rfl
    refine ⟨⟨kept, by rw [write]; rfl⟩, Or.inl ⟨i, m, attempts, member, found, first, last, answer,
      by rw [write]; exact taken⟩, fun _ _ _ _ _ => ⟨_, answer⟩⟩
  | not refused untaken =>
    refine ⟨⟨kept, by rw [write]; rfl⟩,
      Or.inr ⟨by rw [write]; rfl, by rw [write]; exact untaken⟩, ?_⟩
    intro i mem m found takes
    obtain ⟨m', net, e, found', answer⟩ := refused i mem
    obtain rfl := Option.some.inj (found.symm.trans found')
    rw [takes net] at answer
    cases answer

/-- An action puts a batch that it reports into one ledger, or leaves all ledgers as they are and
reports no points. -/
theorem step_ledgers {o p : Output φ τ ω} {a : Action} {answer : Answer} (sound : o.Sound)
    (step : Step o a answer p) :
    let ledgers := (o.fleet.members ++ o.intake a).map Member.accepted
    (p.fleet.ledgers = ledgers ∧ answer.points = 0) ∨
      ∃ i old b, ledgers[i]? = some old ∧ p.fleet.ledgers = ledgers.set i (b :: old) ∧
        answer.points = b.size := by
  cases step with
  | refused failed => exact Or.inl ⟨by simp [Fleet.ledgers, build_eq, intake], rfl⟩
  | @connected pool answers g built asked =>
    obtain ⟨journal, same⟩ := noteReplaced_eq (answers.filterMap failure?)
      { o.build.2 with fleet := g, pool, closed := false }
    have kept : g.ledgers = (o.fleet.members ++ o.handout).map Member.accepted := by
      rw [asked.ledgers_eq, build_eq]
      rfl
    exact Or.inl ⟨by rw [same]; exact kept, rfl⟩
  | unencoded refused =>
    exact Or.inl ⟨by simp [Fleet.ledgers, intake, rebuilt, not_rebuilds_of_refusal refused], rfl⟩
  | nothing => exact Or.inl ⟨by simp [Fleet.ledgers, intake, rebuilt, Rebuilds], rfl⟩
  | @written records b places v g orders encoded something order tried =>
    obtain ⟨n, same⟩ := conclude_snd b.size v { o.readied b with fleet := g, orders }
    have taken : (o.readied b).fleet.members = o.fleet.members ++ o.intake (.write records) :=
      members_readied encoded something
    have once := tried.onceOrNot order (sound.readied b).distinct
    rw [same, ← taken]
    cases once with
    | @once i attempts m g _ found _ _ taken =>
      refine Or.inr ⟨i, m.accepted, b, ?_, taken, rfl⟩
      rw [List.getElem?_map, found, Option.map_some]
    | not _ untaken => exact Or.inl ⟨untaken, rfl⟩
  | closed asked =>
    have kept := asked.ledgers_eq
    exact Or.inl ⟨by simpa [Fleet.ledgers, Fleet.note, intake] using kept, rfl⟩

theorem grown_step {o p : Output φ τ ω} {a : Action} {answer : Answer} (sound : o.Sound)
    (step : Step o a answer p) :
    let ledgers := (o.fleet.members ++ o.intake a).map Member.accepted
    Grown ledgers p.fleet.ledgers ∧ points p.fleet.ledgers = points ledgers + answer.points := by
  rcases step_ledgers sound step with ⟨same, nothing⟩ | ⟨i, old, b, found, put, counted⟩
  · exact same ▸ ⟨Grown.refl _, by rw [nothing, Nat.add_zero]⟩
  · exact put ▸ ⟨Grown.set b found, by rw [counted, points_set b found]⟩

/-- In a run ledgers only grow, and by the points that are reported. -/
theorem grown_run (actions : List Action) {o : Output φ τ ω} (sound : o.Sound) :
    let ledgers := (o.fleet.members ++ intakes actions o).map Member.accepted
    Grown ledgers (run actions o).2.fleet.ledgers ∧
      points (run actions o).2.fleet.ledgers =
        points ledgers + ((run actions o).1.map Answer.points).sum := by
  induction actions generalizing o with
  | nil => simp [run, intakes, Fleet.ledgers, Grown.refl]
  | cons a rest ih =>
    have step := step_perform sound a
    obtain ⟨grown, counted⟩ := grown_step sound step
    obtain ⟨later, total⟩ := ih (sound.step step)
    have base : (o.fleet.members ++ intakes (a :: rest) o).map Member.accepted =
        (o.fleet.members ++ o.intake a).map Member.accepted ++
          (intakes rest (o.perform a).2).map Member.accepted := by
      simp [intakes]
    simp only [List.map_append] at later total
    rw [base]
    refine ⟨(grown.append _).trans later, ?_⟩
    simp only [run, total, points_append, List.map_cons, List.sum_cons]
    unfold Fleet.ledgers at counted
    omega

/-- In every run each write of valid records delivers its batch once or not at all, and the points
that all connections ever built have taken are those that the writes reported. -/
theorem every_run_delivers_once_or_not (settings : Settings) (factory : φ) (net : ω)
    (orders : List (List Nat)) (actions : List Action) :
    let start : Output φ τ ω := new settings factory net orders
    (∀ records : List Record, records ≠ [] → (∀ r ∈ records, r.faults = []) →
      (run actions start).2.DeliversOnceOrNot records) ∧
    Grown ((intakes actions start).map Member.accepted) (run actions start).2.fleet.ledgers ∧
    points (run actions start).2.fleet.ledgers =
      points ((intakes actions start).map Member.accepted) +
        ((run actions start).1.map Answer.points).sum := by
  intro start
  have sound : start.Sound := sound_new settings factory net orders
  exact ⟨fun _ something faultless =>
    delivers_once_or_not (sound_run actions sound) something faultless, grown_run actions sound⟩

/-- An output whose first pool has a member that times out and one that takes every batch. -/
def halfHealthy : Output Prepared Scripted Unit :=
  new ⟨"db", "", ""⟩ ⟨[.ok [Scripted.timingOut "a", Scripted.healthy "b"]], 0⟩ () [[0, 1]]

theorem halfHealthy_delivers_once :
    [reading] ≠ [] ∧ (∀ r ∈ [reading], r.faults = []) ∧
    (run [.connect] halfHealthy).2.DeliversOnceOrNot [reading] ∧
    ((run [.connect] halfHealthy).2.write [reading]).1 = .ok ⟨some "b", 2, 1⟩ ∧
    points (run [.connect, .write [reading]] halfHealthy).2.fleet.ledgers = 1 := by
  have delivers := every_run_delivers_once_or_not ⟨"db", "", ""⟩
    (⟨[.ok [Scripted.timingOut "a", Scripted.healthy "b"]], 0⟩ : Prepared) () [[0, 1]]
  refine ⟨List.cons_ne_nil _ _, faultless_reading,
    (delivers [.connect]).1 [reading] (List.cons_ne_nil _ _) faultless_reading, by rfl, ?_⟩
  exact (delivers [.connect, .write [reading]]).2.2

end Output

end PointRelay
