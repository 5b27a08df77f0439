import Mathlib.Data.List.Nodup
import PointRelay.Proofs.Calls.Acceptance
import PointRelay.Proofs.Calls.Ownership
import PointRelay.Resolver

/-!
# Safety under interleaving

Any number of calls may be under way on one output, and their steps may come in any order: closed
outputs stay empty, no connection is lost or closed twice, no batch is taken twice, and a member is
recovering only while a dispatch recovers it.
-/

namespace PointRelay

/-- Makers of pools whose members are ready. -/
class Readies (φ : Type) (τ ω : outParam Type) extends Factory φ τ ω where
  ready (f : φ) (net : ω) (ms : List (Member τ)) :
    (Factory.build f net).answer = .ok ms → ∀ m ∈ ms, m.phase = .ready

instance : Readies Prepared Scripted Unit where
  ready f _ ms built m mem := by
    change f.build.answer = .ok ms at built
    unfold Prepared.build at built
    split at built
    · cases built
      cases mem
    · cases built
    · cases built
      obtain ⟨made, there, rfl⟩ := List.mem_map.mp mem
      obtain ⟨t, -, rfl⟩ := List.mem_map.mp there
      rfl

namespace Resolver

variable {τ ω : Type} [Dial τ ω]

/-- Who joins a pool is ready. -/
theorem vet_ready (database : String) {e : Endpoint} {s : Focus τ ω}
    (fresh : s.member.phase = .unconnected) (joins : (vet database e s).1 = true) :
    (vet database e s).2.member.phase = .ready := by
  unfold vet at joins ⊢
  cases kind : e.kind with
  | datagram payload =>
    simp only [Focus.move_phase, fresh]
    rfl
  | stream credentials =>
    have kept : (s.ensure database).2.member.phase = .unconnected := fresh
    simp only [kind] at joins
    rcases ensured : s.ensure database with ⟨why | ⟨⟩, t⟩
    · rw [ensured] at joins
      cases joins
    · rw [ensured] at kept
      have open_ : t.member.phase = .unconnected := kept
      simp only [Focus.move_phase, open_]
      rfl

theorem openAll_ready {database : String} {endpoints : List Endpoint} {net : ω} {notes : Journal}
    {ms : List (Member τ)} (opened : (openAll database endpoints net notes).1 = .ok ms) :
    ∀ m ∈ ms, m.phase = .ready := by
  induction endpoints generalizing net notes ms with
  | nil =>
    cases opened
    exact fun _ mem => nomatch mem
  | cons e rest ih =>
    unfold openAll at opened
    rcases dialed : (Dial.dial e net : Except ConnectionError τ × ω) with ⟨source | t, net'⟩
    · rw [dialed] at opened
      cases opened
    · rw [dialed] at opened
      have ready := vet_ready database (e := e) (s := ⟨Member.new t, net', notes⟩) rfl
      simp only at opened
      generalize vet database e ⟨Member.new t, net', notes⟩ = vetted at opened ready
      obtain ⟨joins, left⟩ := vetted
      cases later : (openAll database rest left.net left.journal :
          Except OutputError (List (Member τ)) × ω × Journal).1 with
      | error why =>
        rw [later] at opened
        cases opened
      | ok others =>
        rw [later] at opened
        obtain rfl := Except.ok.inj opened
        cases joins with
        | false => exact ih later
        | true => exact List.forall_mem_cons.mpr ⟨ready rfl, ih later⟩

end Resolver

instance {τ ω : Type} [Dial τ ω] : Readies (Resolver τ) τ ω where
  ready _ _ _ built := Resolver.openAll_ready built

namespace Call

variable {φ τ ω : Type} [Transport τ ω] {o p : Output φ τ ω} {c c' : Call}

omit [Transport τ ω] in
theorem intake_ready [Readies φ τ ω] (c : Call) (o : Output φ τ ω) :
    ∀ m ∈ c.intake o, m.phase = .ready := by
  have handout : ∀ m ∈ o.handout, m.phase = .ready := by
    intro m mem
    unfold Output.handout at mem
    split at mem
    · rename_i ms answer
      exact Readies.ready o.factory o.fleet.net ms answer m mem
    · cases mem
  intro m mem
  cases c with
  | connect => exact handout m mem
  | preparing b =>
    change m ∈ if o.pool = [] ∧ o.closed = false then o.handout else [] at mem
    split at mem
    · exact handout m mem
    · cases mem
  | installing | replacing | write | dispatching | close | closing | done => cases mem

/-- A member is recovering when a call recovers it from now on, or when it was before and the call
was not the one to recover it. -/
theorem Step.recovering [Readies φ τ ω] (step : Step o c c' p) {j : Nat}
    (found : p.fleet.members[j]?.map Member.phase = some .recovering) :
    c'.Recovers j ∨
      (o.fleet.members[j]?.map Member.phase = some .recovering ∧ ¬ c.Recovers j) := by
  have idle : (∀ d, c ≠ .dispatching d) → ¬ c.Recovers j := by
    intro other recovers
    cases c with
    | dispatching d => exact other d rfl
    | connect | installing | replacing | write | preparing | close | closing | done =>
      exact recovers
  cases step.effect with
  | takes members share other =>
    refine Or.inr ⟨?_, idle other⟩
    rw [members] at found
    by_cases old : j < o.fleet.members.length
    · rw [List.getElem?_append_left old] at found
      exact found
    · rw [List.getElem?_append_right (by omega)] at found
      obtain ⟨m, there, phase⟩ := Option.map_eq_some_iff.mp found
      have ready := intake_ready c o m (List.mem_of_getElem? there)
      rw [ready] at phase
      cases phase
  | closes none there members share other =>
    refine Or.inr ⟨?_, idle other⟩
    rw [members] at found
    rcases Dispatch.Step.recovering_put there found with ⟨rfl, phase⟩ | ⟨-, found⟩
    · cases phase
    · exact found
  | goes_on call next went members =>
    subst call
    rw [members] at found
    rcases went.recovering_of_step found with ⟨d', same, recovers⟩ | before
    · obtain rfl := Sum.inl.inj same
      rw [next]
      exact Or.inl recovers
    · exact Or.inr before
  | concludes call next went members =>
    subst call
    rw [members] at found
    rcases went.recovering_of_step found with ⟨d', same, -⟩ | before
    · cases same
    · exact Or.inr before

end Call

/-- A caller's action before its first step. -/
def Action.call : Action → Call
  | .connect => .connect
  | .write records => .write records
  | .close => .close

namespace Calls

variable {φ τ ω : Type}

/-- A member is recovering only while a call recovers it. -/
def Guarded (s : Calls φ τ ω) : Prop :=
  ∀ j : Nat, s.output.fleet.members[j]?.map Member.phase = some .recovering →
    ∃ (k : Nat) (c : Call), s.calls[k]? = some c ∧ c.Recovers j

theorem guarded_run [Transport τ ω] [Readies φ τ ω] {s : Calls φ τ ω} (sound : s.Sound)
    (guarded : s.Guarded) (choices : List Nat) : (s.run choices).Guarded := by
  refine sound.keeps (R := Guarded) ?_ guarded choices
  intro s k c sound found guarded j recovering
  rw [step_of_some found] at recovering ⊢
  rcases (sound.step_call found).recovering recovering with now | ⟨before, other⟩
  · exact ⟨k, _, List.getElem?_set_self (List.getElem?_eq_some_iff.mp found).1, now⟩
  · obtain ⟨i, c', there, recovers⟩ := guarded j before
    have apart : k ≠ i := by
      rintro rfl
      obtain rfl := Option.some.inj (found.symm.trans there)
      exact other recovers
    exact ⟨i, c', (List.getElem?_set_ne apart).trans there, recovers⟩

end Calls

/-- Transports that take a batch wholly or not at all, and count how often they were closed. -/
class Accountable (τ : Type) (ω : outParam Type) extends Ledger τ ω, CountsCloses τ ω

instance : Accountable Scripted Unit where

namespace Calls

variable {φ τ ω : Type} [Accountable τ ω]

/-- What holds however the steps of some callers' actions are interleaved, of the connections that
were handed out so far and of a log of those that took a batch. -/
structure Safe (settings : Settings) (actions : List Action) (handedOut : List (Member τ))
    (log : List Acceptance) (s : Calls φ τ ω) : Prop where
  /-- A closed output has an empty pool. -/
  closed : s.output.closed = true → s.output.pool = []
  /-- The connections are those that were handed out, in order. -/
  connections : s.output.fleet.members.map Member.endpoint = handedOut.map Member.endpoint
  /-- Each is in one place (the pool of the output, a pool not yet taken in, or what one call has
  still to close) and was not closed since, or it is in none and was closed once. -/
  owned : ∀ i m old, s.output.fleet.members[i]? = some m → handedOut[i]? = some old →
    ((s.output.pool ++ s.calls.flatMap Call.held).count i = 1 ∧ m.closes = old.closes) ∨
      ((s.output.pool ++ s.calls.flatMap Call.held).count i = 0 ∧ m.closes = old.closes + 1)
  /-- Nothing else is in those places. -/
  kept : ∀ i ∈ s.output.pool ++ s.calls.flatMap Call.held, i < s.output.fleet.members.length
  /-- The batch of a write was taken by at most one connection: by one when it was answered so. -/
  taken : ∀ (k : Nat) (c : Call), s.calls[k]? = some c →
    log.countP (fun a => a.call = k) = c.taken ∧ c.taken ≤ 1
  /-- What was taken are the batches of writes. -/
  sent : ∀ a ∈ log, ∃ records, actions[a.call]? = some (.write records) ∧
    Batch.encode settings records = .ok a.batch
  /-- The ledgers hold what was taken and nothing else since. -/
  ledgers : s.output.fleet.ledgers = handedOut.mapIdx fun i m => received i log ++ m.accepted
  /-- A connection is recovering only while a dispatch is between the two changes of phase of its
  recovery. -/
  recovering : ∀ i m, s.output.fleet.members[i]? = some m → m.phase = .recovering →
    ∃ d, .dispatching d ∈ s.calls ∧ d.trial.Recovers i

/-- Once all calls are done, the pool has the connections that are open, and none is recovering. -/
theorem Safe.at_rest {settings : Settings} {actions : List Action} {handedOut : List (Member τ)}
    {log : List Acceptance} {s : Calls φ τ ω} (safe : s.Safe settings actions handedOut log)
    (done : ∀ c ∈ s.calls, ∃ answer, c = .done answer) :
    (∀ i m old, s.output.fleet.members[i]? = some m → handedOut[i]? = some old →
      (i ∈ s.output.pool ∧ m.closes = old.closes) ∨
        (i ∉ s.output.pool ∧ m.closes = old.closes + 1)) ∧
    ∀ m ∈ s.output.fleet.members, m.phase ≠ .recovering := by
  have nothing : s.calls.flatMap Call.held = [] := by
    refine List.flatMap_eq_nil_iff.mpr fun c there => ?_
    obtain ⟨answer, rfl⟩ := done c there
    rfl
  constructor
  · intro i m old found before
    have owned := safe.owned i m old found before
    rw [nothing, List.append_nil] at owned
    rcases owned with ⟨kept, closes⟩ | ⟨gone, closes⟩
    · exact Or.inl ⟨List.count_pos_iff.mp (by omega), closes⟩
    · exact Or.inr ⟨List.count_eq_zero.mp gone, closes⟩
  · intro m mem phase
    obtain ⟨i, found⟩ := List.mem_iff_getElem?.mp mem
    obtain ⟨d, there, -⟩ := safe.recovering i m found phase
    obtain ⟨answer, same⟩ := done _ there
    cases same

variable [Readies φ τ ω]

/-- Any interleaving of any actions on one output is safe, after each of its steps. -/
theorem every_interleaving_is_safe (settings : Settings) (factory : φ) (net : ω)
    (orders : List (List Nat)) (actions : List Action) (choices : List Nat) :
    let start : Calls φ τ ω := ⟨.new settings factory net orders, actions.map Action.call⟩
    (start.run choices).Safe settings actions (start.intakes choices)
      (start.acceptances choices) := by
  intro start
  have idle : ∀ c ∈ start.calls, c.held = [] ∧ c.tries = [] ∧ c.taken = 0 ∧ c.batch? = none := by
    intro c mem
    obtain ⟨a, -, rfl⟩ := List.mem_map.mp mem
    cases a <;> exact ⟨rfl, rfl, rfl, rfl⟩
  have sound : start.Sound := by
    refine ⟨fun _ mem => (nomatch mem), fun c there i mem => ?_⟩
    obtain ⟨held, tries, -⟩ := idle c there
    rw [held, tries] at mem
    cases mem
  have nothing : start.held = [] :=
    List.flatMap_eq_nil_iff.mpr fun c there => (idle c there).1
  have owned : start.Owned [] := by
    refine ⟨rfl, ?_, ?_, nofun⟩
    · rw [nothing]
      exact List.nodup_nil
    · rw [nothing]
      exact nofun
  have logged : start.Logged settings (actions.map Action.call) [] := by
    refine ⟨rfl, fun k c found => ⟨c, found, fun _ => id, ?_⟩, fun k c found => ?_, nofun⟩
    · intro b sent
      rw [(idle c (List.mem_of_getElem? found)).2.2.2] at sent
      cases sent
    · rw [(idle c (List.mem_of_getElem? found)).2.2.1]
      rfl
  have ledgered : start.Ledgered [] [] := ⟨nofun, rfl⟩
  have guarded : start.Guarded := fun j found => by cases found
  have emptied : start.output.Emptied := nofun
  have owned := owned.run sound choices
  have logged := logged.run sound choices
  have ledgered := ledgered.run sound choices
  rw [List.append_nil] at logged ledgered
  rw [List.nil_append] at owned ledgered
  refine ⟨emptied_run sound emptied choices, owned.endpoints, ?_, owned.within, ?_, ?_,
    ledgered.ledgers, ?_⟩
  · intro i m old found before
    have closes := owned.closes i m old found before
    by_cases mem : i ∈ (start.run choices).held
    · rw [if_pos mem] at closes
      exact Or.inl ⟨List.count_eq_one_of_mem owned.distinct mem, closes⟩
    · rw [if_neg mem] at closes
      exact Or.inr ⟨List.count_eq_zero.mpr mem, closes⟩
  · intro k c found
    exact ⟨logged.taken k c found, c.taken_le_one⟩
  · intro a mem
    obtain ⟨records, began, encoded⟩ := logged.sent a mem
    rw [List.getElem?_map] at began
    obtain ⟨action, there, same⟩ := Option.map_eq_some_iff.mp began
    cases action with
    | connect | close => cases same
    | write given =>
      cases same
      exact ⟨records, there, encoded⟩
  · intro i m found phase
    have recovering : (start.run choices).output.fleet.members[i]?.map Member.phase =
        some .recovering := by
      rw [found, ← phase]
      rfl
    obtain ⟨k, c, there, recovers⟩ := guarded_run sound guarded choices i recovering
    cases c with
    | dispatching d => exact ⟨d, List.mem_of_getElem? there, recovers⟩
    | connect | installing | replacing | write | preparing | close | closing | done =>
      exact recovers.elim

end Calls

end PointRelay
