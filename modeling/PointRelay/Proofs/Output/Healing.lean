import PointRelay.Proofs.Fleet.Healing
import PointRelay.Proofs.Output.Refusals

/-!
# Outputs heal

Between a connect and the next connect or close an output keeps its pool, if that is not empty. So
when the pool has a member whose only fault is a missing database, no more than one of the writes
that have something to send fails.
-/

namespace PointRelay

namespace Fleet

theorem Has.of_members {P : Scripted → Prop} {f g : Fleet Scripted Unit} {i : Nat}
    (has : f.Has P i) (same : g.members = f.members) : g.Has P i := by
  obtain ⟨m, found, holds⟩ := has
  exact ⟨m, same ▸ found, holds⟩

end Fleet

namespace Output

variable {φ : Type} {o p : Output φ Scripted Unit}

/-- A member of the pool whose transport has a property. -/
def PoolHas (P : Scripted → Prop) (o : Output φ Scripted Unit) : Prop :=
  ∃ i ∈ o.pool, o.fleet.Has P i

variable [Factory φ Scripted Unit]

/-- A pool with a member is not built anew. -/
theorem PoolHas.readied {P : Scripted → Prop} (has : o.PoolHas P) (b : Batch) :
    o.readied b = o.note (.encoded b.size) := by
  obtain ⟨i, mem, -⟩ := has
  rcases o.readied_cases b with ⟨empty, -⟩ | ⟨-, same⟩
  · rw [empty] at mem
    cases mem
  · exact same

/-- What a write does to an output that keeps its pool: nothing when there is nothing to send, else
it tries the members, and fails when they were all tried in vain. -/
structure Sends (o p : Output φ Scripted Unit) (answer : Answer) : Prop where
  pool : p.pool = o.pool
  tried : ∃ database b places v f g, places.Perm o.pool ∧
    Fleet.Tried database b o.pool.length 0 places f v g ∧
    f.members = o.fleet.members ∧ g.members = p.fleet.members ∧
    answer.isFailure = v.isExhausted

theorem sends_of_step {P : Scripted → Prop} (has : o.PoolHas P) {records : List Record}
    {answer : Answer} (step : Step o (.write records) answer p) :
    (¬ Sendable records ∧ p = o) ∨ Sends o p answer := by
  cases step with
  | unencoded refused =>
    refine Or.inl ⟨fun sendable => ?_, rfl⟩
    rw [Batch.encode_of_faultless o.settings sendable.2] at refused
    cases refused
  | nothing => exact Or.inl ⟨fun sendable => sendable.1 rfl, rfl⟩
  | @written records b places v g orders encoded something order tried =>
    rw [has.readied b] at order tried ⊢
    refine Or.inr ⟨?_, o.settings.database, b, places, v, _, g, order, tried, rfl, ?_, ?_⟩
    · cases v <;> rfl
    · cases v <;> rfl
    · cases v <;> rfl

theorem PoolHas.curable_write (sound : o.Sound) (has : o.PoolHas Scripted.Curable)
    (records : List Record) :
    (o.write records).2.PoolHas Scripted.Curable ∧
      (Sendable records → (Answer.written (o.write records).1).isFailure →
        (o.write records).2.PoolHas Scripted.Cured) := by
  rcases sends_of_step has (step_write sound records) with ⟨idle, same⟩ | ⟨pool, tried⟩
  · change (o.write records).2 = o at same
    rw [same]
    exact ⟨has, fun sendable => absurd sendable idle⟩
  · obtain ⟨i, mem, curable⟩ := has
    obtain ⟨database, b, places, v, f, g, perm, tried, before, after, failed⟩ := tried
    have held := tried.curable (perm.mem_iff.mpr mem) (curable.of_members before)
    refine ⟨⟨i, pool ▸ mem, held.1.of_members after.symm⟩, fun _ failure => ?_⟩
    exact ⟨i, pool ▸ mem, (held.2 (failed ▸ failure)).of_members after.symm⟩

theorem PoolHas.cured_write (sound : o.Sound) (has : o.PoolHas Scripted.Cured)
    (records : List Record) :
    (o.write records).2.PoolHas Scripted.Cured ∧
      (Sendable records → (Answer.written (o.write records).1).isFailure = false) := by
  rcases sends_of_step has (step_write sound records) with ⟨idle, same⟩ | ⟨pool, tried⟩
  · change (o.write records).2 = o at same
    rw [same]
    exact ⟨has, fun sendable => absurd sendable idle⟩
  · obtain ⟨i, mem, cured⟩ := has
    obtain ⟨database, b, places, v, f, g, perm, tried, before, after, failed⟩ := tried
    have held := tried.cured (perm.mem_iff.mpr mem) (cured.of_members before)
    exact ⟨⟨i, pool ▸ mem, held.2.of_members after.symm⟩, fun _ => failed.trans held.1⟩

/-- How many writes of a run had something to send and failed. -/
def failures (writes : List (List Record)) (o : Output φ Scripted Unit) : Nat :=
  (writes.zip (run (writes.map Action.write) o).1).countP fun w =>
    decide (Sendable w.1) && w.2.isFailure

theorem failures_cons (records : List Record) (rest : List (List Record))
    (o : Output φ Scripted Unit) :
    o.failures (records :: rest) = (o.write records).2.failures rest +
      if Sendable records ∧ (Answer.written (o.write records).1).isFailure then 1 else 0 := by
  simp only [failures, List.map_cons, run, perform, List.zip_cons_cons, List.countP_cons,
    Bool.and_eq_true, decide_eq_true_eq]

theorem failures_of_cured (writes : List (List Record)) (sound : o.Sound)
    (has : o.PoolHas Scripted.Cured) : o.failures writes = 0 := by
  induction writes generalizing o with
  | nil => rfl
  | cons records rest ih =>
    obtain ⟨kept, taken⟩ := has.cured_write sound records
    have later := ih (sound.step (step_write sound records)) kept
    change (o.write records).2.failures rest = 0 at later
    rw [failures_cons, later, if_neg]
    rintro ⟨sendable, failed⟩
    rw [taken sendable] at failed
    cases failed

theorem failures_of_curable (writes : List (List Record)) (sound : o.Sound)
    (has : o.PoolHas Scripted.Curable) : o.failures writes ≤ 1 := by
  induction writes generalizing o with
  | nil => exact Nat.zero_le 1
  | cons records rest ih =>
    obtain ⟨kept, cures⟩ := has.curable_write sound records
    have sound' : (o.write records).2.Sound := sound.step (step_write sound records)
    rw [failures_cons]
    by_cases failed : Sendable records ∧ (Answer.written (o.write records).1).isFailure
    · rw [if_pos failed, failures_of_cured rest sound' (cures failed.1 failed.2)]
    · rw [if_neg failed]
      exact ih sound' kept

end Output

/-- A missing database fails one batch at most. A pool with a member that has no other fault is
found exhausted at most once in every run of dispatches, and after a connect that leaves such a pool
at most one of the writes that have something to send fails. -/
theorem recovery_heals :
    (∀ (f : Fleet Scripted Unit) (database : String) (pool : List Nat)
      (calls : List (Batch × List Nat)), (∀ i ∈ pool, i < f.members.length) →
      (∃ i ∈ pool, f.Has Scripted.Curable i) →
      (∀ c ∈ calls, c.2.Perm (List.range pool.length)) →
      (f.dispatches database pool calls).1.countP Verdict.isExhausted ≤ 1) ∧
    ∀ (φ : Type) [Factory φ Scripted Unit] (settings : Settings) (factory : φ)
      (orders : List (List Nat)) (before : List Action) (writes : List (List Record)),
      let o := (Output.run before (.new settings factory () orders)).2
      (∃ m ∈ o.connect.2.members, m.transport.Curable) →
      ((writes.zip (Output.run (writes.map Action.write) o.connect.2).1).countP fun w =>
        decide (Sendable w.1) && w.2.isFailure) ≤ 1 := by
  refine ⟨fun f database pool calls within ⟨i, mem, curable⟩ orders =>
    Fleet.dispatches_curable within mem curable orders, ?_⟩
  intro φ _ settings factory orders before writes o ⟨m, mem, curable⟩
  have sound : o.Sound := Output.sound_run before (Output.sound_new settings factory () orders)
  obtain ⟨i, among, found⟩ := List.mem_filterMap.mp mem
  exact Output.failures_of_curable writes (sound.step (Output.step_connect sound))
    ⟨i, among, m, found, curable⟩

/-- A member without its database, and one that never takes a batch and cannot create one. -/
def forgetful : List Scripted :=
  [Scripted.missingDatabase "a", { Scripted.rejecting "b" with failCreate := true }]

theorem forgetful_recovery_heals :
    (∃ i ∈ [0, 1], (Fleet.ready forgetful ()).Has Scripted.Curable i) ∧
    ((Fleet.ready forgetful ()).dispatches "db" [0, 1]
        [(⟨⟨"db", "", ""⟩, []⟩, [1, 0]), (⟨⟨"db", "", ""⟩, []⟩, [1, 0])]).1 =
      [.exhausted 2 2, .delivered "a" 2] ∧
    ((Fleet.ready forgetful ()).dispatches "db" [0, 1]
        [(⟨⟨"db", "", ""⟩, []⟩, [1, 0]), (⟨⟨"db", "", ""⟩, []⟩, [1, 0])]).1.countP
      Verdict.isExhausted ≤ 1 ∧
    ∀ writes : List (List Record),
      let o : Output Prepared Scripted Unit := .new ⟨"db", "", ""⟩ ⟨[.ok forgetful], 0⟩ () []
      ((writes.zip (Output.run (writes.map Action.write) o.connect.2).1).countP fun w =>
        decide (Sendable w.1) && w.2.isFailure) ≤ 1 := by
  have curable : (Scripted.missingDatabase "a").Curable := ⟨rfl, rfl, rfl⟩
  have member : ∃ i ∈ [0, 1], (Fleet.ready forgetful ()).Has Scripted.Curable i :=
    ⟨0, List.mem_cons_self, _, rfl, curable⟩
  refine ⟨member, by decide, ?_, fun writes => ?_⟩
  · exact recovery_heals.1 (Fleet.ready forgetful ()) "db" [0, 1] _ (by decide) member (by decide)
  · exact recovery_heals.2 Prepared ⟨"db", "", ""⟩ ⟨[.ok forgetful], 0⟩ [] [] writes
      ⟨_, List.mem_cons_self, curable⟩

end PointRelay
