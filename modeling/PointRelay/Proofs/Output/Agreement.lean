import PointRelay.Proofs.Output.Account

/-!
# Counters, numbers and events agree

Transports that count what is asked of them count as often as was recorded. With the accounts of a
recorded run this makes the counters of every connection, the numbers of every endpoint and the
events tell the same of every run.
-/

namespace PointRelay

/-- Transports that count how often they were asked to write and to create. -/
class CountsTrials (τ : Type) (ω : outParam Type) extends Transport τ ω where
  writes : τ → Nat
  creates : τ → Nat
  writes_write (b : Batch) (t : τ) (net : ω) :
    writes (Transport.write b t net).transport = writes t + 1
  writes_create (database : String) (t : τ) (net : ω) :
    writes (Transport.create database t net).transport = writes t
  writes_close (t : τ) (net : ω) : writes (Transport.close t net).transport = writes t
  creates_write (b : Batch) (t : τ) (net : ω) :
    creates (Transport.write b t net).transport = creates t
  creates_create (database : String) (t : τ) (net : ω) :
    creates (Transport.create database t net).transport = creates t + 1
  creates_close (t : τ) (net : ω) : creates (Transport.close t net).transport = creates t

instance : CountsTrials Scripted Unit where
  writes t := t.probe.writes
  creates t := t.probe.creates
  writes_write _ _ _ := rfl
  writes_create database t _ := by
    by_cases fails : t.failCreate = true <;> simp [Transport.create, Scripted.create, fails]
  writes_close _ _ := rfl
  creates_write _ _ _ := rfl
  creates_create database t _ := by
    by_cases fails : t.failCreate = true <;> simp [Transport.create, Scripted.create, fails]
  creates_close _ _ := rfl

variable {φ τ ω : Type} [CountsTrials τ ω]

/-- The writes and creations that a transport had counted before its records began. -/
def Recorded.unrecorded (r : Recorded τ) : Int × Int :=
  ((CountsTrials.writes r.transport : Int) - r.history.countP Happening.isWrite,
    (CountsTrials.creates r.transport : Int) - r.history.countP Happening.isCreation)

namespace Recorded

theorem unrecorded_write (b : Batch) (r : Recorded τ) (net : ω) :
    (Transport.write b r net).transport.unrecorded = r.unrecorded := by
  have writes := CountsTrials.writes_write b r.transport net
  have creates := CountsTrials.creates_write b r.transport net
  simp only [unrecorded, Transport.write, record, writes, creates, List.countP_cons,
    Happening.isWrite, Happening.isCreation, if_true, Bool.false_eq_true, if_false, Prod.mk.injEq]
  omega

theorem unrecorded_create (database : String) (r : Recorded τ) (net : ω) :
    (Transport.create database r net).transport.unrecorded = r.unrecorded := by
  have writes := CountsTrials.writes_create database r.transport net
  have creates := CountsTrials.creates_create database r.transport net
  simp only [unrecorded, Transport.create, record, writes, creates, List.countP_cons,
    Happening.isWrite, Happening.isCreation, if_true, Bool.false_eq_true, if_false, Prod.mk.injEq]
  omega

theorem unrecorded_close (r : Recorded τ) (net : ω) :
    (Transport.close r net).transport.unrecorded = r.unrecorded := by
  have writes := CountsTrials.writes_close r.transport net
  have creates := CountsTrials.creates_close r.transport net
  simp only [unrecorded, Transport.close, record, writes, creates, List.countP_cons,
    Happening.isWrite, Happening.isCreation, Bool.false_eq_true, if_false, Nat.add_zero]

end Recorded

/-- What no operation changes of a member: its endpoint, and what was counted before its records. -/
def Member.origin (m : Member (Recorded τ)) : String × Int × Int :=
  (m.endpoint, m.transport.unrecorded)

theorem Focus.origin_attempt {database : String} {b : Batch} {s t : Focus (Recorded τ) ω}
    {answer : Except ConnectionError Unit} (tried : s.attempt database b = (answer, t)) :
    t.member.origin = s.member.origin := by
  have written := Recorded.unrecorded_write b s.member.transport s.net
  unfold Member.origin
  rw [attempt_endpoint tried]
  cases answer with
  | ok => rw [(attempt_ok tried).2.2.1, Focus.written, written]
  | error e =>
    obtain ⟨-, -, ⟨-, left, -⟩ | ⟨-, left, -⟩⟩ := attempt_error tried
    · rw [left, Focus.written, written]
    · rw [left, recreated, Recorded.unrecorded_create, Focus.written, written]

theorem Focus.origin_close (s : Focus (Recorded τ) ω) :
    s.close.2.member.origin = s.member.origin :=
  congrArg (Prod.mk s.member.endpoint) (Recorded.unrecorded_close s.member.transport s.net)

/-- The counters of a connection agree with one another, with what its transport has counted since
it was handed out, and with what was recorded of it. -/
structure Member.Balanced (m : Member (Recorded τ)) (handedOut : Member τ) : Prop where
  endpoint : m.endpoint = handedOut.endpoint
  /-- Every write is counted as written or as failed. -/
  writes : CountsTrials.writes m.transport.transport =
    CountsTrials.writes handedOut.transport + (m.counters.writes + m.counters.failures)
  /-- Every creation is a recovery. -/
  creates : CountsTrials.creates m.transport.transport =
    CountsTrials.creates handedOut.transport + m.counters.recoveries
  /-- Every write that found the database missing is followed by a recovery. -/
  missing : m.counters.recoveries =
    m.transport.history.countP (Happening.refusesWith .schemaMissing)
  recoveries_le : m.counters.recoveries ≤ m.counters.failures
  /-- A recovery failed when the database was not created and not there already. -/
  recoveryFailures :
    m.counters.recoveryFailures = m.transport.history.countP Happening.failsToRecover
  recoveryFailures_le : m.counters.recoveryFailures ≤ m.counters.recoveries

theorem Happening.refuses_of_refusesWith {c : FailureClass} {x : Happening}
    (refused : x.refusesWith c = true) : x.refuses = true := by
  cases x with
  | written answer =>
    cases answer with
    | ok => cases refused
    | error e => rfl
  | created answer => cases refused
  | closed answer => cases refused

theorem Member.Tallied.balanced {m : Member (Recorded τ)} {handedOut : Member τ}
    (tallied : m.Tallied) (origin : m.origin = handedOut.recorded.origin) :
    m.Balanced handedOut := by
  obtain ⟨written, failures, recoveries, missing, recoveryFailures⟩ := tallied
  obtain ⟨endpoint, counted⟩ := Prod.mk.inj origin
  obtain ⟨writes, creates⟩ := Prod.mk.inj counted
  have split := Happening.countP_isWrite m.transport.history
  have made := Happening.countP_isCreation m.transport.history
  have fewer : m.transport.history.countP (Happening.refusesWith .schemaMissing) ≤
      m.transport.history.countP Happening.refuses :=
    List.countP_mono_left fun x _ => Happening.refuses_of_refusesWith
  simp only [Member.recorded, Recorded.fresh, List.countP_nil, Nat.cast_zero, sub_zero]
    at writes creates
  refine ⟨endpoint, ?_, ?_, missing, ?_, recoveryFailures, ?_⟩
  · omega
  · omega
  · omega
  · omega

/-- Two lists that look alike are related place by place when members that look alike are. -/
theorem forall₂_of_map_eq {α β γ : Type} {R : α → β → Prop} {g : α → γ} {h : β → γ} {xs : List α}
    {ys : List β} (same : xs.map g = ys.map h)
    (related : ∀ x ∈ xs, ∀ y, g x = h y → R x y) : List.Forall₂ R xs ys := by
  induction xs generalizing ys with
  | nil =>
    obtain rfl := List.map_eq_nil_iff.mp same.symm
    exact .nil
  | cons x rest ih =>
    cases ys with
    | nil => cases same
    | cons y later =>
      obtain ⟨first, same⟩ := List.cons.inj same
      obtain ⟨here, there⟩ := List.forall_mem_cons.mp related
      exact .cons (here y first) (ih same there)

namespace Output

/-- The counters of the connections that were handed out, the numbers that a monitor collects, the
events that an operator reads and the answers of the writes agree. -/
structure Agreement (handedOut : List (Member τ)) (answers : List Answer)
    (f : Fleet (Recorded τ) ω) : Prop where
  connections : List.Forall₂ Member.Balanced f.members handedOut
  endpoints : ∀ endpoint, f.AccountsFor endpoint
  written : f.written = f.journal.total (.batches "success")
  succeeded : f.journal.total (.batches "success") = answers.countP Answer.isDelivered
  failed : f.journal.total (.batches "failure") = answers.countP Answer.isExhausted

variable [Factory φ τ ω]

theorem agreement_run [Untried φ] (settings : Settings) (factory : φ) (net : ω)
    (orders : List (List Nat)) (actions : List Action) :
    let start : Output (Recorder φ) (Recorded τ) ω := new settings ⟨factory⟩ net orders
    Agreement (intakes actions start.forget) (run actions start).1 (run actions start).2.fleet := by
  intro start
  have sound : start.Sound := sound_new settings (Recorder.mk factory) net orders
  obtain ⟨⟨told, tallied, succeeded, failed⟩, written⟩ :=
    accounts_run actions sound (accounts_new settings factory net orders)
  rw [List.nil_append] at succeeded failed written
  have origins := view_run Member.origin Focus.origin_attempt Focus.origin_close actions sound
  rw [show start.fleet.members = [] from rfl, List.nil_append, intakes_recorded, List.map_map]
    at origins
  have delivered := Journal.total_eq_counted (Series.byOne_batches "success")
    (run actions start).2.fleet.journal
  have exhausted := Journal.total_eq_counted (Series.byOne_batches "failure")
    (run actions start).2.fleet.journal
  refine ⟨?_, told.accountsFor tallied, ?_, ?_, ?_⟩
  · exact forall₂_of_map_eq origins fun m mem handedOut origin =>
      (tallied m mem).balanced origin
  · rw [delivered, succeeded, written]
  · rw [delivered, succeeded]
  · rw [exhausted, failed]

/-- In every run over pools of scripted transports, recording changes nothing, and the counters
of all connections ever handed out, the numbers for every endpoint, the events and the answers
agree. -/
theorem counters_numbers_and_events_agree (settings : Settings) (pools : Prepared)
    (orders : List (List Nat)) (actions : List Action) :
    let start : Output Prepared Scripted Unit := new settings pools () orders
    let recorded : Output (Recorder Prepared) (Recorded Scripted) Unit :=
      new settings ⟨pools⟩ () orders
    run actions start = ((run actions recorded).1, (run actions recorded).2.forget) ∧
    Agreement (intakes actions start) (run actions start).1 (run actions recorded).2.fleet := by
  intro start recorded
  have plain := forget_run actions recorded
  refine ⟨plain, ?_⟩
  rw [show (run actions start).1 = (run actions recorded).1 from congrArg Prod.fst plain]
  exact agreement_run settings pools () orders actions

end Output

end PointRelay
