import PointRelay.Proofs.Fleet.Ownership
import PointRelay.Proofs.Output.Run

/-!
# Ownership over whole runs

In every run the pool owns the connections that were built: those in it were never closed, all
others once. From a close to the next connect that succeeds the pool is empty and stays so, and no
write asks for another one.
-/

namespace PointRelay

/-- Makers of pools that count how often they were asked for one. -/
class CountsBuilds (φ : Type) (τ ω : outParam Type) extends Factory φ τ ω where
  builds : φ → Nat
  builds_build (f : φ) (net : ω) : builds (Factory.build f net).factory = builds f + 1

instance : CountsBuilds Prepared Scripted Unit where
  builds := Prepared.builds
  builds_build f _ := by
    change f.build.factory.builds = f.builds + 1
    unfold Prepared.build
    split <;> rfl

namespace Output

variable {φ τ ω : Type}

theorem closing_eq_ok {found : List ConnectionError} : closing found = .ok () ↔ found = [] := by
  cases found <;> simp [closing]

theorem closing_eq_error {found failures : List ConnectionError} :
    closing found = .error (.close failures) ↔ found ≠ [] ∧ failures = found := by
  cases found <;> simp [closing, eq_comm]

/-- A close asks every member of the pool and reports the failures in the order of the pool. -/
theorem close_reports [Transport τ ω] {o : Output φ τ ω} (sound : o.Sound) :
    ∃ answers, Fleet.Asked o.pool (o.fleet.note (.poolSize 0)) answers o.close.2.fleet ∧
      (o.close.1 = .ok () ↔ ∀ answer ∈ answers, answer = .ok ()) ∧
      ∀ failures, o.close.1 = .error (.close failures) ↔
        (∃ answer ∈ answers, answer ≠ .ok ()) ∧ failures = answers.filterMap failure? := by
  obtain ⟨answers, asked, collected⟩ :=
    Fleet.asked_closeAll o.pool (o.fleet.note (.poolSize 0)) sound.within
  have reported : o.close.1 = closing (answers.filterMap failure?) := by
    simp only [close, collected]
  have none : answers.filterMap failure? = [] ↔ ∀ answer ∈ answers, answer = .ok () := by
    simp [List.filterMap_eq_nil_iff, failure?_eq_none]
  refine ⟨answers, asked, by rw [reported, closing_eq_ok, none], fun failures => ?_⟩
  rw [reported, closing_eq_error, Ne, none]
  simp only [not_forall, exists_prop, ne_eq]

section
variable [CountsCloses τ ω] [Factory φ τ ω]

/-- The pool of an output owns the connections of its fleet. -/
def Owned (o : Output φ τ ω) : Prop := o.fleet.Owned o.pool

theorem Owned.take {o : Output φ τ ω} {f : Fleet τ ω} (owned : o.Owned)
    (fresh : ∀ m ∈ o.handout, m.closes = 0) (taken : f.members = o.fleet.members ++ o.handout) :
    f.Owned (o.pool ++ o.newPlaces) :=
  Fleet.Owned.take owned fresh taken

theorem Owned.readied {o : Output φ τ ω} {records : List Record} {b : Batch} (owned : o.Owned)
    (fresh : ∀ m ∈ o.rebuilt records, m.closes = 0)
    (encoded : Batch.encode o.settings records = .ok b) (something : records ≠ []) :
    (o.readied b).Owned := by
  rcases o.readied_cases b with ⟨empty, opened, journal, same⟩ | ⟨-, same⟩
  · rw [rebuilt, if_pos ⟨something, (Batch.encode_ok encoded).2, empty, opened⟩] at fresh
    have kept := owned.take fresh (f := (o.readied b).fleet) (by rw [same])
    rw [empty, List.nil_append] at kept
    unfold Owned
    rw [same] at kept ⊢
    exact kept
  · rw [same]
    exact owned

/-- Fresh connections go into the pool, and those of a pool that is given up are closed. -/
theorem Owned.step {o p : Output φ τ ω} {a : Action} {answer : Answer} (owned : o.Owned)
    (sound : o.Sound) (fresh : ∀ m ∈ o.intake a, m.closes = 0) (step : Step o a answer p) :
    p.Owned := by
  cases step with
  | refused failed =>
    have kept := owned.take fresh (f := o.build.2.fleet) (by rw [build_eq])
    rw [newPlaces, handout_of_build failed, List.length_nil, List.range'_zero,
      List.append_nil] at kept
    unfold Owned
    rw [build_eq] at kept ⊢
    exact kept
  | @connected pool answers g built asked =>
    obtain ⟨journal, same⟩ := noteReplaced_eq (answers.filterMap failure?)
      { o.build.2 with fleet := g, pool, closed := false }
    obtain rfl := newPlaces_of_build built
    have taken : (o.pool ++ o.newPlaces).Nodup := by
      refine List.nodup_append.mpr ⟨sound.distinct, o.nodup_newPlaces, ?_⟩
      rintro i mem _ new rfl
      have := sound.within i mem
      have := (mem_newPlaces.mp new).1
      omega
    have kept := (owned.take fresh (f := o.build.2.fleet.note (.poolSize o.newPlaces.length))
      (by rw [build_eq]; rfl)).asked taken asked
    rw [same]
    exact kept
  | unencoded refused => exact owned
  | nothing => exact owned
  | @written records b places v g orders encoded something order tried =>
    obtain ⟨n, same⟩ := conclude_snd b.size v { o.readied b with fleet := g, orders }
    have kept := (owned.readied fresh encoded something).tried tried
    rw [same]
    exact kept
  | closed asked =>
    have all : Fleet.Owned (o.pool ++ []) (o.fleet.note (.poolSize 0)) := by
      rw [List.append_nil]
      exact owned
    exact all.asked (by rw [List.append_nil]; exact sound.distinct) asked

theorem owned_run (actions : List Action) {o : Output φ τ ω} (owned : o.Owned) (sound : o.Sound)
    (fresh : ∀ m ∈ intakes actions o, m.closes = 0) : (run actions o).2.Owned := by
  induction actions generalizing o with
  | nil => exact owned
  | cons a rest ih =>
    have step := step_perform sound a
    obtain ⟨now, later⟩ := List.forall_mem_append.mp fresh
    exact ih (owned.step sound now step) (sound.step step) later

end

section
variable [CountsBuilds φ τ ω]

/-- How often a pool was asked for. -/
def builds (o : Output φ τ ω) : Nat := CountsBuilds.builds o.factory

/-- How often an action asks for a pool. -/
def asks (a : Action) (o : Output φ τ ω) : Nat :=
  match a with
  | .connect => 1
  | .write records => if o.Rebuilds records then 1 else 0
  | .close => 0

theorem builds_readied {o : Output φ τ ω} {records : List Record} {b : Batch}
    (encoded : Batch.encode o.settings records = .ok b) (something : records ≠ []) :
    (o.readied b).builds = o.builds + o.asks (.write records) := by
  have rebuilds := rebuilds_iff encoded something
  rcases o.readied_cases b with ⟨empty, opened, journal, same⟩ | ⟨ready, same⟩
  · rw [same, asks, if_pos (rebuilds.mpr ⟨empty, opened⟩)]
    exact CountsBuilds.builds_build o.factory o.fleet.net
  · rw [same, asks, if_neg (mt rebuilds.mp ready)]
    rfl

variable [Transport τ ω]

theorem builds_step {o p : Output φ τ ω} {a : Action} {answer : Answer}
    (step : Step o a answer p) : p.builds = o.builds + o.asks a := by
  cases step with
  | refused failed =>
    rw [build_eq]
    exact CountsBuilds.builds_build o.factory o.fleet.net
  | @connected pool answers g built asked =>
    obtain ⟨journal, same⟩ := noteReplaced_eq (answers.filterMap failure?)
      { o.build.2 with fleet := g, pool, closed := false }
    rw [same, build_eq]
    exact CountsBuilds.builds_build o.factory o.fleet.net
  | unencoded refused => rw [asks, if_neg (not_rebuilds_of_refusal refused), Nat.add_zero]
  | nothing => simp [asks, Rebuilds]
  | @written records b places v g orders encoded something order tried =>
    obtain ⟨n, same⟩ := conclude_snd b.size v { o.readied b with fleet := g, orders }
    rw [same]
    exact builds_readied encoded something
  | closed asked => rfl

end

/-- Closed, and not connected again since. -/
structure Shut (o : Output φ τ ω) : Prop where
  empty : o.pool = []
  closed : o.closed = true

theorem Shut.keeps {o : Output φ τ ω} (shut : o.Shut) (records : List Record) :
    ¬ o.Rebuilds records := by
  rintro ⟨-, -, -, opened⟩
  rw [shut.closed] at opened
  cases opened

section
variable [Transport τ ω] [Factory φ τ ω]

theorem Shut.step {o p : Output φ τ ω} {a : Action} {answer : Answer} (shut : o.Shut)
    (step : Step o a answer p) (unconnected : answer ≠ .connected (.ok ())) : p.Shut := by
  cases step with
  | refused failed =>
    rw [build_eq]
    exact ⟨shut.empty, shut.closed⟩
  | connected built asked => exact absurd rfl unconnected
  | unencoded refused => exact shut
  | nothing => exact shut
  | @written records b places v g orders encoded something order tried =>
    obtain ⟨n, same⟩ := conclude_snd b.size v { o.readied b with fleet := g, orders }
    rcases o.readied_cases b with ⟨-, opened, -⟩ | ⟨-, kept⟩
    · rw [shut.closed] at opened
      cases opened
    · rw [same, kept]
      exact ⟨shut.empty, shut.closed⟩
  | closed asked => exact ⟨rfl, rfl⟩

theorem shut_run (actions : List Action) {o : Output φ τ ω} (sound : o.Sound) (shut : o.Shut)
    (unconnected : ∀ answer ∈ (run actions o).1, answer ≠ .connected (.ok ())) :
    (run actions o).2.Shut := by
  induction actions generalizing o with
  | nil => exact shut
  | cons a rest ih =>
    obtain ⟨first, later⟩ := List.forall_mem_cons.mp unconnected
    have step := step_perform sound a
    exact ih (sound.step step) (shut.step step first) later

/-- A write to an output that is shut finds no member to try. -/
theorem Shut.write {o : Output φ τ ω} {records : List Record} (shut : o.Shut)
    (something : records ≠ []) (faultless : ∀ r ∈ records, r.faults = []) :
    (o.write records).1 = .error (.poolExhausted 0 0) := by
  have encoded := Batch.encode_of_faultless o.settings faultless
  have filled : (Batch.mk o.settings (records.map Record.toPoint)).isEmpty = false := by
    cases records with
    | nil => exact absurd rfl something
    | cons r rest => rfl
  rcases o.readied_cases ⟨o.settings, records.map Record.toPoint⟩ with ⟨-, opened, -⟩ | ⟨-, kept⟩
  · rw [shut.closed] at opened
    cases opened
  · rw [write_of_encoded encoded filled, kept]
    simp [dispatch, note, shut.empty, conclude]

end

variable [CountsCloses τ ω] [CountsBuilds φ τ ω]

/-- After every run each connection that was built is a member of the pool and was never closed, or
is none and was closed once, if all were fresh. From a close to the next connect that succeeds there
is no pool, whatever is done. A write asks for a pool at most once and only when it needs one, and a
close reports those failures that there were. -/
theorem every_run_owns_its_connections (settings : Settings) (factory : φ) (net : ω)
    (orders : List (List Nat)) (actions : List Action) :
    let start : Output φ τ ω := new settings factory net orders
    let o := (run actions start).2
    (o.fleet.members.map Member.endpoint = (intakes actions start).map Member.endpoint ∧
      ((∀ m ∈ intakes actions start, m.closes = 0) → ∀ i m, o.fleet.members[i]? = some m →
        (i ∈ o.pool ∧ m.closes = 0) ∨ (i ∉ o.pool ∧ m.closes = 1))) ∧
    (∀ later : List Action,
      (∀ answer ∈ (run later o.close.2).1, answer ≠ .connected (.ok ())) →
      let shut := (run later o.close.2).2
      shut.pool = [] ∧ ∀ records : List Record,
        (shut.write records).2.builds = shut.builds ∧
        (records ≠ [] → (∀ r ∈ records, r.faults = []) →
          (shut.write records).1 = .error (.poolExhausted 0 0))) ∧
    ((∀ records : List Record, (o.write records).2.builds = o.builds +
        if records ≠ [] ∧ (∀ r ∈ records, r.faults = []) ∧ o.pool = [] ∧ o.closed = false
        then 1 else 0) ∧
      o.connect.2.builds = o.builds + 1 ∧
      o.connect.1 = (Factory.build o.factory o.fleet.net).answer.map fun _ => ()) ∧
    ∃ answers, Fleet.Asked o.pool (o.fleet.note (.poolSize 0)) answers o.close.2.fleet ∧
      (o.close.1 = .ok () ↔ ∀ answer ∈ answers, answer = .ok ()) ∧
      ∀ failures, o.close.1 = .error (.close failures) ↔
        (∃ answer ∈ answers, answer ≠ .ok ()) ∧ failures = answers.filterMap failure? := by
  intro start o
  have sound : o.Sound := sound_run actions (sound_new settings factory net orders)
  refine ⟨⟨endpoints_run actions (sound_new settings factory net orders), ?_⟩, ?_,
    ⟨fun records => ?_, ?_, ?_⟩, close_reports sound⟩
  · exact owned_run actions (by simp [Owned, Fleet.Owned, start, new])
      (sound_new settings factory net orders)
  · intro later unconnected
    have closed := sound.step (step_perform sound .close)
    have shut : (run later o.close.2).2.Shut := shut_run later closed ⟨rfl, rfl⟩ unconnected
    have sound : (run later o.close.2).2.Sound := sound_run later closed
    refine ⟨shut.empty, fun records => ⟨?_, shut.write⟩⟩
    have asked := builds_step (step_perform sound (.write records))
    rw [asks, if_neg (shut.keeps records)] at asked
    exact asked
  · exact builds_step (step_perform sound (.write records))
  · exact builds_step (step_perform sound .connect)
  · exact o.connect_answer

/-- A member that does not close, a build that fails, and two pools that replace each other. -/
def restless : Output Prepared Scripted Unit :=
  new ⟨"db", "", ""⟩
    ⟨[.ok [{ Scripted.healthy "a" with failClose := true }], .error (.config "url" "unreadable"),
      .ok [Scripted.healthy "b"], .ok [Scripted.healthy "c"]], 0⟩ () []

theorem restless_owns_its_connections :
    (∀ m ∈ intakes [.connect, .close, .connect, .connect, .connect] restless, m.closes = 0) ∧
    (∀ i m, (run [.connect, .close, .connect, .connect, .connect] restless).2.fleet.members[i]? =
        some m → (i ∈ [2] ∧ m.closes = 0) ∨ (i ∉ [2] ∧ m.closes = 1)) ∧
    (∀ answer ∈ (run [.connect] (run [.connect] restless).2.close.2).1,
        answer ≠ .connected (.ok ())) ∧
    ((run [.connect] (run [.connect] restless).2.close.2).2.write [reading]).1 =
      .error (.poolExhausted 0 0) := by
  have owns := every_run_owns_its_connections restless.settings restless.factory
    restless.fleet.net restless.orders
  have fresh : ∀ m ∈ intakes [.connect, .close, .connect, .connect, .connect] restless,
      m.closes = 0 := by
    have built : (intakes [.connect, .close, .connect, .connect, .connect] restless).map
        Member.closes = List.replicate 3 0 := by
      rfl
    exact fun m mem => List.eq_of_mem_replicate (built ▸ List.mem_map_of_mem mem)
  have refused : ∀ answer ∈ (run [.connect] (run [.connect] restless).2.close.2).1,
      answer ≠ .connected (.ok ()) := by
    intro answer mem
    obtain rfl := List.mem_singleton.mp mem
    intro connected
    cases connected
  exact ⟨fresh, (owns [.connect, .close, .connect, .connect, .connect]).1.2 fresh, refused,
    (((owns [.connect]).2.1 [.connect] refused).2 [reading]).2 (List.cons_ne_nil _ _)
      faultless_reading⟩

end Output

end PointRelay
