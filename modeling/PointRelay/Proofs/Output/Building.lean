import PointRelay.Output
import PointRelay.Proofs.Point.Encoding

/-!
# Building a pool

What a build hands out stands behind all members of the fleet, at places of its own. A pool is built
to connect, and before a write that finds the pool empty although the output was not closed. An
output is sound when its pool names members of the fleet, none of them twice.
-/

namespace PointRelay

variable {φ τ ω : Type}

namespace Output

structure Sound (o : Output φ τ ω) : Prop where
  distinct : o.pool.Nodup
  within : ∀ i ∈ o.pool, i < o.fleet.members.length

@[simp] theorem members_note (n : Note) (o : Output φ τ ω) :
    (o.note n).fleet.members = o.fleet.members :=
  rfl

/-- A write builds a pool first when there is something to write, the pool is empty and the output
was not closed. -/
def Rebuilds (records : List Record) (o : Output φ τ ω) : Prop :=
  records ≠ [] ∧ (∀ r ∈ records, r.faults = []) ∧ o.pool = [] ∧ o.closed = false

instance (records : List Record) (o : Output φ τ ω) : Decidable (o.Rebuilds records) :=
  inferInstanceAs (Decidable (_ ∧ _))

theorem not_rebuilds_of_refusal {o : Output φ τ ω} {records : List Record} {refusal : Refusal}
    (refused : Batch.encode o.settings records = .error refusal) : ¬ o.Rebuilds records := by
  rintro ⟨-, faultless, -⟩
  rw [Batch.encode_of_faultless o.settings faultless] at refused
  cases refused

theorem rebuilds_iff {o : Output φ τ ω} {records : List Record} {b : Batch}
    (encoded : Batch.encode o.settings records = .ok b) (something : records ≠ []) :
    o.Rebuilds records ↔ o.pool = [] ∧ o.closed = false :=
  ⟨fun rebuilds => rebuilds.2.2, fun empty => ⟨something, (Batch.encode_ok encoded).2, empty⟩⟩

variable [Factory φ τ ω]

/-- The members that a build hands out now, none when it fails. -/
def handout (o : Output φ τ ω) : List (Member τ) :=
  match (Factory.build o.factory o.fleet.net).answer with
  | .ok ms => ms
  | .error _ => []

/-- The places at which they are taken in. -/
def newPlaces (o : Output φ τ ω) : List Nat :=
  List.range' o.fleet.members.length o.handout.length

theorem build_eq (o : Output φ τ ω) :
    o.build = ((Factory.build o.factory o.fleet.net).answer.map fun _ => o.newPlaces,
      { o with
        factory := (Factory.build o.factory o.fleet.net).factory
        fleet := ⟨o.fleet.members ++ o.handout, (Factory.build o.factory o.fleet.net).net,
          (Factory.build o.factory o.fleet.net).notes ++ o.fleet.journal⟩ }) := by
  unfold build newPlaces handout
  split <;> rename_i answer <;> simp [answer, Except.map, Fleet.add]

theorem handout_of_error {o : Output φ τ ω} {e : OutputError}
    (failed : (Factory.build o.factory o.fleet.net).answer = .error e) : o.handout = [] := by
  simp [handout, failed]

/-- A build that fails hands out nothing, one that succeeds takes its members in. -/
theorem build_cases (o : Output φ τ ω) :
    (∃ e, o.build.1 = .error e ∧ o.handout = []) ∨ o.build.1 = .ok o.newPlaces := by
  rw [build_eq]
  cases answer : (Factory.build o.factory o.fleet.net).answer with
  | error e => exact Or.inl ⟨e, rfl, handout_of_error answer⟩
  | ok ms => exact Or.inr rfl

theorem newPlaces_of_build {o : Output φ τ ω} {pool : List Nat} (built : o.build.1 = .ok pool) :
    pool = o.newPlaces := by
  rcases o.build_cases with ⟨e, failed, -⟩ | taken
  · rw [failed] at built
    cases built
  · exact Except.ok.inj (built.symm.trans taken)

theorem handout_of_build {o : Output φ τ ω} {e : OutputError} (failed : o.build.1 = .error e) :
    o.handout = [] := by
  rcases o.build_cases with ⟨-, -, none⟩ | taken
  · exact none
  · rw [taken] at failed
    cases failed

theorem mem_newPlaces {o : Output φ τ ω} {i : Nat} :
    i ∈ o.newPlaces ↔
      o.fleet.members.length ≤ i ∧ i < o.fleet.members.length + o.handout.length := by
  simp [newPlaces, List.mem_range'_1]

/-- A rebuild leaves the pool that was built; one that fails leaves it empty. -/
theorem prepare_of_empty {o : Output φ τ ω} (empty : o.pool = []) (opened : o.closed = false) :
    ∃ journal, o.prepare = { o with
      factory := (Factory.build o.factory o.fleet.net).factory
      fleet := ⟨o.fleet.members ++ o.handout, (Factory.build o.factory o.fleet.net).net, journal⟩
      pool := o.newPlaces } := by
  have skipped : ¬ (o.pool ≠ [] ∨ o.closed = true) := by simp [empty, opened]
  unfold prepare
  rw [if_neg skipped, build_eq]
  cases answer : (Factory.build o.factory o.fleet.net).answer with
  | error e => exact ⟨_, by simp [Except.map, note, Fleet.note, newPlaces, empty,
      handout_of_error answer]; rfl⟩
  | ok ms => exact ⟨_, by simp [Except.map, note, Fleet.note]; rfl⟩

theorem prepare_of_ready {o : Output φ τ ω} (ready : o.pool ≠ [] ∨ o.closed = true) :
    o.prepare = o := by
  unfold prepare
  rw [if_pos ready]

/-- The output with the pool that a write of a batch goes to. -/
def readied (b : Batch) (o : Output φ τ ω) : Output φ τ ω := (o.note (.encoded b.size)).prepare

/-- A write builds a pool first or takes the one that is there. -/
theorem readied_cases (b : Batch) (o : Output φ τ ω) :
    (o.pool = [] ∧ o.closed = false ∧ ∃ journal, o.readied b = { o with
      factory := (Factory.build o.factory o.fleet.net).factory
      fleet := ⟨o.fleet.members ++ o.handout, (Factory.build o.factory o.fleet.net).net, journal⟩
      pool := o.newPlaces }) ∨
    (¬ (o.pool = [] ∧ o.closed = false) ∧ o.readied b = o.note (.encoded b.size)) := by
  by_cases empty : o.pool = [] ∧ o.closed = false
  · exact Or.inl ⟨empty.1, empty.2,
      prepare_of_empty (o := o.note (.encoded b.size)) empty.1 empty.2⟩
  · refine Or.inr ⟨empty, prepare_of_ready (o := o.note (.encoded b.size)) ?_⟩
    by_cases some : o.pool = []
    · exact Or.inr (Bool.eq_true_of_not_eq_false fun opened => empty ⟨some, opened⟩)
    · exact Or.inl some

theorem settings_readied (b : Batch) (o : Output φ τ ω) :
    (o.readied b).settings = o.settings := by
  rcases o.readied_cases b with ⟨-, -, journal, same⟩ | ⟨-, same⟩
  · rw [same]
  · rw [same]
    rfl

theorem nodup_newPlaces (o : Output φ τ ω) : o.newPlaces.Nodup :=
  List.nodup_range'

theorem Sound.readied {o : Output φ τ ω} (sound : o.Sound) (b : Batch) : (o.readied b).Sound := by
  rcases o.readied_cases b with ⟨-, -, journal, same⟩ | ⟨-, same⟩
  · rw [same]
    refine ⟨o.nodup_newPlaces, fun i mem => ?_⟩
    obtain ⟨-, upper⟩ := mem_newPlaces.mp mem
    simpa using upper
  · rw [same]
    exact ⟨sound.distinct, sound.within⟩

/-- The members that a write of records has built first. -/
def rebuilt (records : List Record) (o : Output φ τ ω) : List (Member τ) :=
  if o.Rebuilds records then o.handout else []

theorem members_readied {o : Output φ τ ω} {records : List Record} {b : Batch}
    (encoded : Batch.encode o.settings records = .ok b) (something : records ≠ []) :
    (o.readied b).fleet.members = o.fleet.members ++ o.rebuilt records := by
  have rebuilds := rebuilds_iff encoded something
  rcases o.readied_cases b with ⟨empty, opened, journal, same⟩ | ⟨ready, same⟩
  · rw [same, rebuilt, if_pos (rebuilds.mpr ⟨empty, opened⟩)]
  · rw [same, rebuilt, if_neg (mt rebuilds.mp ready), List.append_nil, members_note]

/-- A record without faults. -/
def reading : Record := (Record.new "cpu" ⟨0, 0⟩).withField "v" (.integer 1)

theorem faultless_reading : ∀ r ∈ [reading], r.faults = [] := by
  decide

end Output

end PointRelay
