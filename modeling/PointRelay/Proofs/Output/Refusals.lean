import PointRelay.Proofs.Output.Account
import PointRelay.Resolver
import PointRelay.Scripted

/-!
# Calls that fail early

A write whose records cannot be encoded, or that has none, ends before anything is asked of the
pool, and a connect whose build fails ends before the pool is touched. The first two leave the whole
output as it was, so they can be dropped from every run; the third leaves what its build left.
-/

namespace PointRelay

/-- Something to write, and all of it can be encoded. -/
def Sendable (records : List Record) : Prop := records ≠ [] ∧ ∀ r ∈ records, r.faults = []

instance (records : List Record) : Decidable (Sendable records) :=
  inferInstanceAs (Decidable (_ ∧ _))

/-- A call that answered with an error. -/
def Answer.isFailure : Answer → Bool
  | .connected (.error _) | .written (.error _) | .closed (.error _) => true
  | .connected (.ok _) | .written (.ok _) | .closed (.ok _) => false

/-- A call that asks for something: all but the writes that have nothing to send. -/
def Action.asks : Action → Bool
  | .connect | .close => true
  | .write records => decide (Sendable records)

theorem Batch.encode_of_fault (settings : Settings) {records : List Record}
    (faulty : ∃ r ∈ records, r.faults ≠ []) :
    ∃ refusal, Batch.encode settings records = .error refusal := by
  cases encoded : Batch.encode settings records with
  | error refusal => exact ⟨refusal, rfl⟩
  | ok b =>
    obtain ⟨r, mem, fault⟩ := faulty
    exact absurd ((Batch.encode_ok encoded).2 r mem) fault

namespace Journal

/-- Notes that add nothing to the metrics. -/
def Unmeasured (notes : Journal) : Prop := ∀ n ∈ notes, n.measures = []

theorem metrics_append {notes : Journal} (none : notes.Unmeasured) (j : Journal) :
    metrics (notes ++ j) = j.metrics := by
  have added : measures (notes ++ j) = j.measures := by
    have nothing : notes.reverse.flatMap Note.measures = [] := by
      exact List.flatMap_eq_nil_iff.mpr fun n mem => none n (List.mem_reverse.mp mem)
    rw [measures, List.reverse_append, List.flatMap_append, nothing, List.append_nil]
    rfl
  simp only [metrics, series, metric?, added]

/-- Nor do they tell of a refused write. -/
theorem failureEvents_append {notes : Journal} (none : notes.Unmeasured) (j : Journal)
    (endpoint : String) : (notes ++ j).events.filter (Event.isFailureAt endpoint) =
      j.events.filter (Event.isFailureAt endpoint) := by
  have nothing : notes.events.filter (Event.isFailureAt endpoint) = [] := by
    refine List.filter_eq_nil_iff.mpr fun event mem failure => ?_
    obtain ⟨n, among, told⟩ := List.mem_filterMap.mp mem
    have refused : n.event?.any (Event.isFailureAt endpoint) = true := by
      rw [told]
      exact failure
    obtain ⟨e, rfl⟩ := Note.event_isFailureAt.mp refused
    cases none _ (List.mem_reverse.mp among)
  rw [events, List.reverse_append, List.filterMap_append, List.filter_append]
  exact (congrArg (_ ++ ·) nothing).trans (List.append_nil _)

end Journal

variable {φ τ ω : Type}

/-- Makers of pools that leave the metrics alone. -/
class Unmeasured (φ : Type) {τ ω : Type} [Factory φ τ ω] : Prop where
  notes (f : φ) (net : ω) : (Factory.build f net).notes.Unmeasured

instance : Unmeasured Prepared where
  notes f _ := by
    change f.build.notes.Unmeasured
    unfold Prepared.build
    split
    · exact fun _ mem => nomatch mem
    · exact fun _ mem => nomatch mem
    · intro n mem
      obtain ⟨made, there, mem⟩ := List.mem_flatMap.mp (List.mem_reverse.mp mem)
      obtain ⟨t, -, rfl⟩ := List.mem_map.mp there
      obtain rfl := List.mem_singleton.mp mem
      rfl

theorem Focus.move_unmeasured {s : Focus τ ω} (next : Phase) (none : s.journal.Unmeasured) :
    (s.move next).journal.Unmeasured := by
  unfold Focus.move
  split
  · exact none
  · exact List.forall_mem_cons.mpr ⟨rfl, none⟩

namespace Resolver

variable [Dial τ ω]

theorem release_unmeasured {s : Focus τ ω} (none : s.journal.Unmeasured) :
    (release s).journal.Unmeasured := by
  unfold release
  rcases closed : s.close with ⟨e | ⟨⟩, t⟩
  · have kept : t.journal = s.journal := by
      rw [← (Prod.mk.inj closed).2]
    exact List.forall_mem_cons.mpr ⟨rfl, kept ▸ none⟩
  · have kept : t.journal = s.journal := by
      rw [← (Prod.mk.inj closed).2]
    exact kept ▸ none

theorem vet_unmeasured (database : String) (e : Endpoint) {s : Focus τ ω}
    (none : s.journal.Unmeasured) : (vet database e s).2.journal.Unmeasured := by
  unfold vet
  cases e.kind with
  | datagram payload => exact Focus.move_unmeasured .ready none
  | stream credentials =>
    rcases ensured : s.ensure database with ⟨why | ⟨⟩, t⟩
    · have kept : t.journal = s.journal := by
        rw [← (Prod.mk.inj ensured).2]
      exact release_unmeasured (List.forall_mem_cons.mpr ⟨rfl, kept ▸ none⟩)
    · have kept : t.journal = s.journal := by
        rw [← (Prod.mk.inj ensured).2]
      exact Focus.move_unmeasured .ready (kept ▸ none)

theorem openAll_unmeasured (database : String) (endpoints : List Endpoint) (net : ω)
    {notes : Journal} (none : notes.Unmeasured) :
    (openAll database endpoints net notes : Except OutputError (List (Member τ)) × ω × Journal).2.2
      |>.Unmeasured := by
  induction endpoints generalizing net notes with
  | nil => exact none
  | cons e rest ih =>
    unfold openAll
    rcases (Dial.dial e net : Except ConnectionError τ × ω) with ⟨source | t, after⟩
    · exact none
    · exact ih _ (vet_unmeasured database e none)

end Resolver

instance [Dial τ ω] : Unmeasured (Resolver τ) where
  notes r net := Resolver.openAll_unmeasured r.database r.endpoints net fun _ mem => nomatch mem

namespace Output

variable [Transport τ ω] [Factory φ τ ω]

theorem write_of_fault {o : Output φ τ ω} {records : List Record}
    (faulty : ∃ r ∈ records, r.faults ≠ []) :
    ∃ refusal, o.write records = (.error (.encoding refusal), o) := by
  obtain ⟨refusal, refused⟩ := Batch.encode_of_fault o.settings faulty
  exact ⟨refusal, by simp only [write, refused]⟩

/-- A write that has nothing to send changes nothing. -/
theorem write_unsendable {o : Output φ τ ω} {records : List Record} (idle : ¬ Sendable records) :
    (o.write records).2 = o := by
  cases records with
  | nil => rfl
  | cons r rest =>
    have faulty : ∃ r' ∈ r :: rest, r'.faults ≠ [] := by
      by_contra none
      exact idle ⟨List.cons_ne_nil r rest, fun r' mem =>
        by_contra fun fault => none ⟨r', mem, fault⟩⟩
    obtain ⟨refusal, refused⟩ := o.write_of_fault faulty
    rw [refused]

/-- A connect whose build fails leaves what the build left. -/
theorem connect_of_failure {o : Output φ τ ω} {e : OutputError}
    (failed : (Factory.build o.factory o.fleet.net).answer = .error e) :
    o.connect = (.error e, { o with
      factory := (Factory.build o.factory o.fleet.net).factory
      fleet := ⟨o.fleet.members, (Factory.build o.factory o.fleet.net).net,
        (Factory.build o.factory o.fleet.net).notes ++ o.fleet.journal⟩ }) := by
  have built : o.build.1 = .error e := by
    rw [build_eq, failed]
    rfl
  rw [connect_of_error built, build_eq, handout_of_error failed, List.append_nil]

theorem perform_idle {o : Output φ τ ω} {a : Action} (idle : a.asks = false) :
    (o.perform a).2 = o := by
  cases a with
  | connect | close => cases idle
  | write records => exact write_unsendable (of_decide_eq_false idle)

/-- Calls that ask for nothing can be dropped from a run. -/
theorem run_asking (actions : List Action) (o : Output φ τ ω) :
    run (actions.filter Action.asks) o =
      (((actions.zip (run actions o).1).filter fun call => call.1.asks).map Prod.snd,
        (run actions o).2) := by
  induction actions generalizing o with
  | nil => rfl
  | cons a rest ih =>
    by_cases asks : a.asks = true
    · simp [run, asks, ih]
    · have same : (o.perform a).2 = o := perform_idle (Bool.eq_false_iff.mpr asks)
      simp [run, asks, ih, same]

/-- After every run a write with a faulty record answers with the encoding error and a write of
nothing with an empty report, and both leave the whole output as it was, so that they can be dropped
from whatever follows. A connect whose build fails answers with that error, and all that it leaves
is what the build did to the maker of pools and to the network, and what it noted: nothing that is
measured, and no refused write. -/
theorem early_failures_change_nothing (settings : Settings) (factory : φ) (net : ω)
    (orders : List (List Nat)) (before : List Action) :
    let o := (run before (new settings factory net orders : Output φ τ ω)).2
    (∀ records : List Record, (∃ r ∈ records, r.faults ≠ []) →
      ∃ refusal, o.write records = (.error (.encoding refusal), o)) ∧
    o.write [] = (.ok ⟨none, 0, 0⟩, o) ∧
    (∀ after : List Action, run (after.filter Action.asks) o =
      (((after.zip (run after o).1).filter fun call => call.1.asks).map Prod.snd,
        (run after o).2)) ∧
    ∀ e, (Factory.build o.factory o.fleet.net).answer = .error e →
      o.connect = (.error e, { o with
        factory := (Factory.build o.factory o.fleet.net).factory
        fleet := ⟨o.fleet.members, (Factory.build o.factory o.fleet.net).net,
          (Factory.build o.factory o.fleet.net).notes ++ o.fleet.journal⟩ }) ∧
      (Unmeasured φ → o.connect.2.fleet.journal.metrics = o.fleet.journal.metrics ∧
        ∀ endpoint, o.connect.2.fleet.journal.events.filter (Event.isFailureAt endpoint) =
          o.fleet.journal.events.filter (Event.isFailureAt endpoint)) := by
  intro o
  refine ⟨fun _ => write_of_fault, rfl, fun after => run_asking after o, fun e failed => ?_⟩
  have connect := connect_of_failure failed
  refine ⟨connect, fun unmeasured => ?_⟩
  have none := unmeasured.notes o.factory o.fleet.net
  rw [connect]
  exact ⟨Journal.metrics_append none o.fleet.journal,
    Journal.failureEvents_append none o.fleet.journal⟩

/-- An output that is connected and whose next build fails. -/
def reconnecting : Output Prepared Scripted Unit :=
  new ⟨"db", "", ""⟩ ⟨[.ok [Scripted.healthy "a"], .error (.config "url" "unreadable")], 0⟩ () [[0]]

/-- A record without a name. -/
def nameless : Record := { reading with name := "" }

theorem reconnecting_early_failures_change_nothing :
    let o := (run [.connect] reconnecting).2
    (∃ r ∈ [reading, nameless], r.faults ≠ []) ∧
    (∃ refusal, o.write [reading, nameless] = (.error (.encoding refusal), o)) ∧
    (Factory.build o.factory o.fleet.net).answer = .error (.config "url" "unreadable") ∧
    o.connect = (.error (.config "url" "unreadable"), { o with factory := ⟨[], 2⟩ }) ∧
    o.connect.2.fleet.journal.metrics = o.fleet.journal.metrics ∧
    o.connect.2.fleet.journal.events.filter (Event.isFailureAt "a") =
      o.fleet.journal.events.filter (Event.isFailureAt "a") := by
  intro o
  have faulty : ∃ r ∈ [reading, nameless], r.faults ≠ [] :=
    ⟨nameless, by simp, by decide⟩
  obtain ⟨refuses, -, -, fails⟩ := early_failures_change_nothing (τ := Scripted) ⟨"db", "", ""⟩
    (⟨[.ok [Scripted.healthy "a"], .error (.config "url" "unreadable")], 0⟩ : Prepared) ()
    [[0]] [.connect]
  obtain ⟨connect, unmeasured⟩ := fails (.config "url" "unreadable") rfl
  obtain ⟨metrics, events⟩ := unmeasured inferInstance
  exact ⟨faulty, refuses _ faulty, rfl, connect, metrics, events "a"⟩

end Output

end PointRelay
