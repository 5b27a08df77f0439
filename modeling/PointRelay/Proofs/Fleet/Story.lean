import PointRelay.Proofs.Fleet.Phases
import PointRelay.Proofs.Journal.Totals

/-!
# The stories of members

What is asked of the transport of a member in a dispatch is counted with the member and noted with
its endpoint, each time once. So the counters of a member count its history, and the journal of a
fleet tells of writes and creations just what the histories of its members tell, mixed as it came.
-/

namespace PointRelay

namespace Happening

def isWrite : Happening → Bool
  | .written _ => true
  | .created _ | .closed _ => false

def isCreation : Happening → Bool
  | .created _ => true
  | .written _ | .closed _ => false

/-- A batch was taken. -/
def accepts : Happening → Bool
  | .written answer => answer.isOk
  | .created _ | .closed _ => false

/-- A batch was refused. -/
def refuses : Happening → Bool
  | .written answer => !answer.isOk
  | .created _ | .closed _ => false

/-- A batch was refused for a failure of a class. -/
def refusesWith (c : FailureClass) : Happening → Bool
  | .written (.error e) => e.failureClass = c
  | .written (.ok _) | .created _ | .closed _ => false

/-- A database was created or there already. -/
def recovers : Happening → Bool
  | .created answer => (Focus.ensured answer).isOk
  | .written _ | .closed _ => false

/-- The note of what happened at an endpoint. -/
def note? (endpoint database : String) : Happening → Option Note
  | .written (.ok _) => some (.accepted endpoint)
  | .written (.error e) => some (.refused endpoint e)
  | .created answer =>
    match Focus.ensured answer with
    | .ok _ => some (.recovered endpoint)
    | .error e => some (.recoveryFailed endpoint database e)
  | .closed _ => none

end Happening

/-- A note on a batch or a database that was asked of a transport. -/
def Note.isTrial : Note → Bool
  | .accepted _ | .refused _ _ | .recovered _ | .recoveryFailed _ _ _ => true
  | .phaseChanged _ _ _ | .excluded _ _ _ | .excludedNotClosed _ _ | .poolSize _ | .rebuilt
  | .rebuildFailed _ | .encoded _ | .batchWritten _ | .batchFailed _ _ | .notClosed _ _
  | .replacedNotClosed _ => false

/-- A note on how a write ended. -/
def Note.isOutcome : Note → Bool
  | .batchWritten _ | .batchFailed _ _ => true
  | .accepted _ | .refused _ _ | .recovered _ | .recoveryFailed _ _ _ | .phaseChanged _ _ _
  | .excluded _ _ _ | .excludedNotClosed _ _ | .poolSize _ | .rebuilt | .rebuildFailed _
  | .encoded _ | .notClosed _ _ | .replacedNotClosed _ => false

/-- The notes on batches and databases. -/
def Journal.trials (j : Journal) : Journal := j.filter Note.isTrial

theorem Journal.trials_append (late early : Journal) :
    trials (late ++ early) = late.trials ++ early.trials := List.filter_append ..

/-- The notes of what happened to a member, newest first. -/
def Member.story {τ : Type} (database : String) (m : Member (Recorded τ)) : Journal :=
  m.transport.history.filterMap (Happening.note? m.endpoint database)

/-- The counters of a member count its history. -/
structure Member.Tallied {τ : Type} (m : Member (Recorded τ)) : Prop where
  writes : m.counters.writes = m.transport.history.countP Happening.accepts
  failures : m.counters.failures = m.transport.history.countP Happening.refuses
  recoveries : m.counters.recoveries = m.transport.history.countP Happening.isCreation
  /-- A database is created when a write found it missing, and only then. -/
  missing : m.counters.recoveries =
    m.transport.history.countP (Happening.refusesWith .schemaMissing)
  recoveryFailures :
    m.counters.recoveryFailures = m.transport.history.countP Happening.failsToRecover

variable {τ ω : Type}

namespace Focus

/-- An operation makes notes. Those on batches and databases are `told`, and none is on how a write
ended. -/
def Notes (told : Journal) (s t : Focus τ ω) : Prop :=
  ∃ new : Journal, t.journal = new ++ s.journal ∧ new.trials = told ∧
    ∀ n ∈ new, n.isOutcome = false

theorem Notes.refl (s : Focus τ ω) : s.Notes [] s :=
  ⟨[], rfl, rfl, fun _ mem => nomatch mem⟩

theorem Notes.trans {early late : Journal} {s t u : Focus τ ω} (first : s.Notes early t)
    (second : t.Notes late u) : s.Notes (late ++ early) u := by
  obtain ⟨new, journal, told, ended⟩ := first
  obtain ⟨new', journal', told', ended'⟩ := second
  refine ⟨new' ++ new, ?_, ?_, ?_⟩
  · rw [journal', journal, List.append_assoc]
  · rw [Journal.trials_append, told', told]
  · intro n mem
    rcases List.mem_append.mp mem with mem | mem
    · exact ended' n mem
    · exact ended n mem

theorem notes_note {n : Note} (ended : n.isOutcome = false) (s : Focus τ ω) :
    s.Notes (Journal.trials [n]) (s.note n) :=
  ⟨[n], rfl, rfl, fun _ mem => List.mem_singleton.mp mem ▸ ended⟩

theorem notes_move (next : Phase) (s : Focus τ ω) : s.Notes [] (s.move next) := by
  unfold move
  split
  · exact .refl s
  · exact notes_note (n := .phaseChanged s.member.endpoint s.member.phase next) rfl s

theorem notes_restore (s : Focus τ ω) : s.Notes [] s.restore := by
  unfold restore
  split
  · exact notes_move .ready s
  · exact .refl s

theorem notes_settle (database : String) (answer : Except ConnectionError Unit) (s : Focus τ ω) :
    s.Notes [match answer with
      | .ok _ => .recovered s.member.endpoint
      | .error e => .recoveryFailed s.member.endpoint database e] (s.settle database answer) := by
  cases answer with
  | ok =>
    have moved := notes_move .ready (s.count fun c => { c with recoveries := c.recoveries + 1 })
    exact moved.trans (notes_note (n := .recovered s.member.endpoint) rfl _)
  | error e =>
    have moved := notes_move .degraded (s.count fun c => { c with
      recoveries := c.recoveries + 1
      recoveryFailures := c.recoveryFailures + 1 })
    exact moved.trans (notes_note (n := .recoveryFailed s.member.endpoint database e) rfl _)

theorem notes_told (answer : Except ConnectionError Unit) (s : Focus τ ω) :
    s.Notes [] (s.told answer) := by
  cases answer with
  | ok => exact .refl s
  | error e => exact notes_note (n := .notClosed s.member.endpoint e) rfl s

/-- What an operation adds to the history of a member, it adds to the journal. -/
def Tells (database : String) (s t : Focus (Recorded τ) ω) : Prop :=
  ∃ told : Journal, s.Notes told t ∧
    t.member.story database = told ++ s.member.story database

theorem Tells.trans {database : String} {s t u : Focus (Recorded τ) ω}
    (early : s.Tells database t) (late : t.Tells database u) : s.Tells database u := by
  obtain ⟨first, notes, story⟩ := early
  obtain ⟨second, notes', story'⟩ := late
  exact ⟨second ++ first, notes.trans notes', by rw [story', story, List.append_assoc]⟩

theorem move_counters (next : Phase) (s : Focus τ ω) :
    (s.move next).member.counters = s.member.counters := by
  unfold move
  split <;> rfl

theorem restore_counters (s : Focus τ ω) : s.restore.member.counters = s.member.counters := by
  unfold restore
  split
  · exact move_counters .ready s
  · rfl

theorem settle_counters (database : String) (answer : Except ConnectionError Unit)
    (s : Focus τ ω) :
    (s.settle database answer).member.counters =
      ⟨s.member.counters.writes, s.member.counters.failures, s.member.counters.recoveries + 1,
        s.member.counters.recoveryFailures + if answer.isOk then 0 else 1⟩ := by
  cases answer <;> simp [settle, note, move_counters, count, Except.isOk, Except.toBool]

variable [Transport τ ω]

/-- A recovery is counted, and counted as failed when there is no database after it. -/
theorem recover_counters (database : String) (s : Focus τ ω) :
    (s.recover database).2.member.counters =
      ⟨s.member.counters.writes, s.member.counters.failures, s.member.counters.recoveries + 1,
        s.member.counters.recoveryFailures + if (s.recover database).1.isOk then 0 else 1⟩ := by
  have before : ((s.move .recovering).create database).2.member.counters = s.member.counters :=
    move_counters .recovering s
  have settled := settle_counters database (ensured ((s.move .recovering).create database).1)
    ((s.move .recovering).create database).2
  rw [before] at settled
  exact settled

/-- An attempt counts a batch that is taken as written. -/
theorem writes_attempt (database : String) (b : Batch) (s : Focus τ ω) :
    (s.attempt database b).2.member.counters.writes =
      s.member.counters.writes + if (s.attempt database b).1.isOk then 1 else 0 := by
  cases answer : (s.written b).answer with
  | ok =>
    rw [attempt_of_ok answer, restore_counters]
    rfl
  | error e =>
    rw [attempt_of_error answer]
    split
    · rw [recover_counters]
      rfl
    · rfl

/-- A recovery makes one note of its outcome. -/
theorem notes_recover (database : String) (s : Focus τ ω) :
    s.Notes [match (s.recover database).1 with
      | .ok _ => .recovered s.member.endpoint
      | .error e => .recoveryFailed s.member.endpoint database e] (s.recover database).2 := by
  have moved : s.Notes [] ((s.move .recovering).create database).2 := notes_move .recovering s
  have endpoint : ((s.move .recovering).create database).2.member.endpoint = s.member.endpoint :=
    move_endpoint .recovering s
  have settled := moved.trans (notes_settle database
    (ensured ((s.move .recovering).create database).1) ((s.move .recovering).create database).2)
  rw [endpoint] at settled
  exact settled

theorem endpoint_recover (database : String) (s : Focus (Recorded τ) ω) :
    (s.recover database).2.member.endpoint = s.member.endpoint := by
  simp [recover, ensure, create, operate]

theorem tells_recover (database : String) (s : Focus (Recorded τ) ω) :
    s.Tells database (s.recover database).2 := by
  have answer : (s.recover database).1 = ensured ((s.move .recovering).create database).1 := rfl
  refine ⟨_, notes_recover database s, ?_⟩
  rw [Member.story, history_recover, endpoint_recover, List.filterMap_cons, Happening.note?, answer]
  cases ensured ((s.move .recovering).create database).1 <;> rfl

theorem tells_attempt (database : String) (b : Batch) (s : Focus (Recorded τ) ω) :
    s.Tells database (s.attempt database b).2 := by
  have written := s.history_written b
  cases answer : (s.written b).answer with
  | ok =>
    have counted : s.Notes [.accepted s.member.endpoint] (s.carry (s.written b)).succeed :=
      notes_note (n := .accepted s.member.endpoint) rfl s
    rw [attempt_of_ok answer]
    refine ⟨_, counted.trans (notes_restore _), ?_⟩
    rw [Member.story, restore_transport, restore_endpoint]
    show (s.written b).transport.history.filterMap _ = _
    rw [written, answer]
    rfl
  | error e =>
    have failed : s.Tells database ((s.carry (s.written b)).fail e) := by
      refine ⟨_, notes_note (n := .refused s.member.endpoint e) rfl s, ?_⟩
      show (s.written b).transport.history.filterMap _ = _
      rw [written, answer]
      rfl
    rw [attempt_of_error answer]
    split
    · exact failed.trans (tells_recover database _)
    · exact failed

theorem tells_close (database : String) (s : Focus (Recorded τ) ω) :
    s.Tells database (s.close.2.told s.close.1) := by
  refine ⟨[], notes_told s.close.1 s.close.2, ?_⟩
  rw [told_member]
  rfl

/-- A creation counts as failed when it leaves no database. -/
theorem recovers_of_created (database : String) (s : Focus (Recorded τ) ω) :
    (if (s.recover database).1.isOk then 0 else 1) =
      if (Happening.created ((s.move .recovering).create database).1).failsToRecover
      then 1 else 0 := by
  have flipped : (Happening.created ((s.move .recovering).create database).1).failsToRecover =
      !(s.recover database).1.isOk := rfl
  rw [flipped]
  cases (s.recover database).1.isOk <;> rfl

theorem tallied_close {s : Focus (Recorded τ) ω} (tallied : s.member.Tallied) :
    s.close.2.member.Tallied := by
  obtain ⟨writes, failures, recoveries, missing, recoveryFailures⟩ := tallied
  have grown : s.close.2.member.transport.history =
      .closed s.close.1 :: s.member.transport.history :=
    rfl
  constructor <;> rw [grown, List.countP_cons_of_neg (by simp [Happening.accepts,
    Happening.refuses, Happening.isCreation, Happening.refusesWith, Happening.failsToRecover])]
  · exact writes
  · exact failures
  · exact recoveries
  · exact missing
  · exact recoveryFailures

theorem tallied_attempt (database : String) (b : Batch) {s : Focus (Recorded τ) ω}
    (tallied : s.member.Tallied) : (s.attempt database b).2.member.Tallied := by
  obtain ⟨writes, failures, recoveries, missing, recoveryFailures⟩ := tallied
  have written := s.history_written b
  cases answer : (s.written b).answer with
  | ok =>
    rw [answer] at written
    have grown : (s.carry (s.written b)).succeed.restore.member.transport.history =
        .written (.ok ()) :: s.member.transport.history := by
      rw [restore_transport]
      exact written
    have counted := restore_counters (s.carry (s.written b)).succeed
    rw [attempt_of_ok answer]
    constructor <;> rw [grown, counted, List.countP_cons]
    · exact congrArg (· + 1) writes
    · exact failures
    · exact recoveries
    · exact missing
    · exact recoveryFailures
  | error e =>
    rw [answer] at written
    rw [attempt_of_error answer]
    by_cases lost : e.failureClass = .schemaMissing
    · rw [if_pos lost]
      have grown := history_recover database ((s.carry (s.written b)).fail e)
      have counted := recover_counters database ((s.carry (s.written b)).fail e)
      have before : ((s.carry (s.written b)).fail e).member.transport.history =
          .written (.error e) :: s.member.transport.history := written
      rw [before] at grown
      constructor <;> rw [grown, counted, List.countP_cons, List.countP_cons]
      · exact writes
      · exact congrArg (· + 1) failures
      · exact congrArg (· + 1) recoveries
      · simp only [Happening.refusesWith, lost]
        exact congrArg (· + 1) missing
      · have answered := recovers_of_created database ((s.carry (s.written b)).fail e)
        rw [answered]
        exact congrArg (· + _) recoveryFailures
    · rw [if_neg lost]
      have grown : ((s.carry (s.written b)).fail e).member.transport.history =
          .written (.error e) :: s.member.transport.history := written
      constructor <;> rw [grown, List.countP_cons]
      · exact writes
      · exact congrArg (· + 1) failures
      · exact recoveries
      · simp only [Happening.refusesWith, lost]
        exact missing
      · exact recoveryFailures

end Focus

namespace Happening

theorem countP_isWrite (h : History) :
    h.countP isWrite = h.countP accepts + h.countP refuses := by
  induction h with
  | nil => rfl
  | cons x rest ih =>
    simp only [List.countP_cons, ih]
    cases x with
    | written answer =>
      cases taken : answer.isOk with
      | true => simp [isWrite, accepts, refuses, taken]; omega
      | false => simp [isWrite, accepts, refuses, taken]; omega
    | created answer => rfl
    | closed answer => rfl

theorem countP_isCreation (h : History) :
    h.countP isCreation = h.countP recovers + h.countP failsToRecover := by
  induction h with
  | nil => rfl
  | cons x rest ih =>
    simp only [List.countP_cons, ih]
    cases x with
    | created answer =>
      cases made : (Focus.ensured answer).isOk with
      | true => simp [isCreation, recovers, failsToRecover, made]; omega
      | false => simp [isCreation, recovers, failsToRecover, made]; omega
    | written answer => rfl
    | closed answer => rfl

end Happening

namespace Fleet

/-- The journal tells of batches and databases what the histories of the members tell. -/
def Told (database : String) (f : Fleet (Recorded τ) ω) : Prop :=
  f.journal.trials.Perm (f.members.flatMap (Member.story database))

theorem Told.put {database : String} {f : Fleet (Recorded τ) ω} {i : Nat}
    {s t : Focus (Recorded τ) ω} (told : f.Told database) (there : f.focus? i = some s)
    (tells : s.Tells database t) : (f.put i t).Told database := by
  obtain ⟨more, ⟨new, journal, among, -⟩, story⟩ := tells
  obtain ⟨found, -, same⟩ := focus?_eq_some.mp there
  show t.journal.trials.Perm ((f.members.set i t.member).flatMap (Member.story database))
  obtain ⟨others, before, after⟩ := perm_flatMap_set (Member.story database) found t.member
  rw [journal, same, Journal.trials_append, among]
  rw [story, List.append_assoc] at after
  exact ((told.trans before).append_left more).trans after.symm

/-- Counters of how writes ended are left alone by what is done to one member. -/
theorem counted_put {s : Series} (outcome : ∀ n : Note, n.counter? = some s → n.isOutcome = true)
    {told : Journal} {f : Fleet τ ω} {i : Nat} {t u : Focus τ ω} (there : f.focus? i = some t)
    (notes : t.Notes told u) : (f.put i u).journal.counted s = f.journal.counted s := by
  obtain ⟨new, journal, -, ended⟩ := notes
  obtain ⟨-, -, same⟩ := focus?_eq_some.mp there
  have none : new.countP (fun n => n.counter? = some s) = 0 := by
    refine List.countP_eq_zero.mpr fun n mem counts => ?_
    have := outcome n (of_decide_eq_true counts)
    rw [ended n mem] at this
    cases this
  show u.journal.counted s = f.journal.counted s
  rw [Journal.counted, journal, same, List.countP_append, none, Nat.zero_add]
  rfl

/-- Notes on batches and databases are as many as the happenings that they are made of. -/
theorem Told.countP_eq {database : String} {f : Fleet (Recorded τ) ω} (told : f.Told database)
    {p : Note → Bool} (trial : ∀ n : Note, p n = true → n.isTrial = true) :
    f.journal.countP p =
      (f.members.map fun m => m.transport.history.countP fun x =>
        (x.note? m.endpoint database).any p).sum := by
  have only : f.journal.countP p = f.journal.trials.countP p := by
    unfold Journal.trials
    rw [List.countP_filter]
    refine List.countP_congr fun n _ => ?_
    rw [Bool.and_eq_true]
    exact ⟨fun counts => ⟨counts, trial n counts⟩, fun counts => counts.1⟩
  rw [only, List.Perm.countP_eq p told, List.countP_flatMap]
  congr 1
  refine List.map_congr_left fun m _ => List.countP_filterMap.trans ?_
  refine List.countP_congr fun x _ => ?_
  cases x.note? m.endpoint database <;> rfl

/-- A sum over the members at an endpoint. -/
def sumAt (endpoint : String) (g : Member τ → Nat) (f : Fleet τ ω) : Nat :=
  ((f.members.filter (·.endpoint = endpoint)).map g).sum

theorem sumAt_congr {endpoint : String} {g h : Member τ → Nat} {f : Fleet τ ω}
    (same : ∀ m ∈ f.members, g m = h m) : f.sumAt endpoint g = f.sumAt endpoint h := by
  unfold sumAt
  exact congrArg List.sum (List.map_congr_left fun m mem => same m (List.mem_filter.mp mem).1)

/-- Notes on an endpoint are as many as the happenings at its members that they are made of. -/
theorem Told.countP_eq_sumAt {database endpoint : String} {f : Fleet (Recorded τ) ω}
    (told : f.Told database) {p : Note → Bool} {q : Happening → Bool}
    (trial : ∀ n : Note, p n = true → n.isTrial = true)
    (reads : ∀ (e : String) (x : Happening),
      (x.note? e database).any p = (decide (e = endpoint) && q x)) :
    f.journal.countP p = f.sumAt endpoint fun m => m.transport.history.countP q := by
  rw [told.countP_eq trial]
  unfold sumAt
  generalize f.members = ms
  induction ms with
  | nil => rfl
  | cons m rest ih =>
    rw [List.map_cons, List.sum_cons, ih]
    simp only [reads]
    by_cases here : m.endpoint = endpoint
    · simp [here]
    · simp [here]

end Fleet

end PointRelay
