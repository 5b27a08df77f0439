import PointRelay.Proofs.Fleet.Recording
import PointRelay.Scripted

/-!
# Phases and histories

The phase of a member of a pool is read off what happened to its transport. It is closed from its
first close on. Before, it is degraded when a recovery of its database failed and nothing succeeded
since, and ready otherwise. The phases are moved by attempts, recoveries and closes in different
places; each of them moves the phase as the happenings that it records say.
-/

namespace PointRelay

namespace Happening

def closes : Happening → Bool
  | .closed _ => true
  | .written _ | .created _ => false

/-- A batch was taken, or a database was created or there already. -/
def succeeds : Happening → Bool
  | .written answer => answer.isOk
  | .created answer => (Focus.ensured answer).isOk
  | .closed _ => false

/-- A database could not be created. -/
def failsToRecover : Happening → Bool
  | .created answer => !(Focus.ensured answer).isOk
  | .written _ | .closed _ => false

/-- The phase behind a happening. -/
def next (x : Happening) (p : Phase) : Phase :=
  if p = .closed ∨ x.closes then .closed
  else if x.succeeds then .ready
  else if x.failsToRecover then .degraded
  else p

theorem not_succeeds_of_failsToRecover {x : Happening} (fails : x.failsToRecover) :
    x.succeeds = false := by
  cases x <;> simp_all [failsToRecover, succeeds]

theorem next_eq_closed {x : Happening} {p : Phase} :
    x.next p = .closed ↔ p = .closed ∨ x.closes := by
  unfold next
  split
  · simp_all
  · split
    · simp_all
    · split <;> simp_all

theorem next_eq_degraded {x : Happening} {p : Phase} :
    x.next p = .degraded ↔
      ¬ (p = .closed ∨ x.closes) ∧ (x.failsToRecover ∨ ¬ x.succeeds ∧ p = .degraded) := by
  have exclusive : x.failsToRecover → x.succeeds = false := not_succeeds_of_failsToRecover
  unfold next
  split
  · simp_all
  · split
    · simp_all
    · split <;> simp_all

@[simp] theorem next_closed (answer : Except ConnectionError Unit) (p : Phase) :
    (closed answer).next p = .closed := by
  simp [next, closes]

theorem next_created (answer : Except ConnectionError Unit) (p : Phase) :
    (created answer).next p =
      if p = .closed then .closed
      else if (Focus.ensured answer).isOk then .ready else .degraded := by
  cases made : (Focus.ensured answer).isOk <;>
    simp [next, closes, succeeds, failsToRecover, made]

theorem next_written_ok (p : Phase) :
    (written (.ok ())).next p = if p = .closed then .closed else .ready := by
  simp [next, closes, succeeds, Except.isOk, Except.toBool]

@[simp] theorem next_written_error (e : ConnectionError) (p : Phase) :
    (written (.error e)).next p = p := by
  by_cases closed : p = .closed <;>
    simp [next, closes, succeeds, failsToRecover, Except.isOk, Except.toBool, closed]

end Happening

/-- What happened to a transport, newest first. -/
abbrev History := List Happening

namespace History

/-- A close was asked for, whatever it answered. -/
def Closed (h : History) : Prop := ∃ x ∈ h, x.closes

/-- A recovery failed, and nothing succeeded after it. -/
def Unrepaired (h : History) : Prop :=
  ∃ late failed early, h = late ++ failed :: early ∧ failed.failsToRecover ∧
    ∀ x ∈ late, ¬ x.succeeds

/-- The phase behind a history that began with a ready member. -/
def phase (h : History) : Phase := h.foldr Happening.next .ready

theorem phase_cons (x : Happening) (h : History) : phase (x :: h) = x.next h.phase := rfl

theorem closed_cons {x : Happening} {h : History} :
    Closed (x :: h) ↔ x.closes ∨ Closed h := by
  simp [Closed]

theorem unrepaired_cons {x : Happening} {h : History} :
    Unrepaired (x :: h) ↔ x.failsToRecover ∨ ¬ x.succeeds ∧ Unrepaired h := by
  constructor
  · rintro ⟨late, failed, early, whole, fails, quiet⟩
    cases late with
    | nil =>
      obtain ⟨rfl, -⟩ := List.cons.inj whole
      exact Or.inl fails
    | cons y late =>
      obtain ⟨rfl, rest⟩ := List.cons.inj whole
      obtain ⟨last, quiet⟩ := List.forall_mem_cons.mp quiet
      exact Or.inr ⟨last, late, failed, early, rest, fails, quiet⟩
  · rintro (fails | ⟨last, late, failed, early, rfl, fails, quiet⟩)
    · exact ⟨[], x, h, rfl, fails, by simp⟩
    · exact ⟨x :: late, failed, early, rfl, fails, List.forall_mem_cons.mpr ⟨last, quiet⟩⟩

theorem phase_eq_closed {h : History} : h.phase = .closed ↔ h.Closed := by
  induction h with
  | nil => simp [phase, Closed]
  | cons x h ih => rw [phase_cons, Happening.next_eq_closed, closed_cons, ih, or_comm]

theorem phase_eq_degraded {h : History} : h.phase = .degraded ↔ ¬ h.Closed ∧ h.Unrepaired := by
  induction h with
  | nil => simp [phase, Unrepaired]
  | cons x h ih =>
    rw [phase_cons, Happening.next_eq_degraded, phase_eq_closed, closed_cons, unrepaired_cons, ih]
    by_cases gone : Closed h <;> simp [gone]

theorem phase_settled (h : History) :
    h.phase = .closed ∨ h.phase = .degraded ∨ h.phase = .ready := by
  induction h with
  | nil => exact Or.inr (Or.inr rfl)
  | cons x h ih =>
    rw [phase_cons, Happening.next]
    split
    · exact Or.inl rfl
    · split
      · exact Or.inr (Or.inr rfl)
      · split
        · exact Or.inr (Or.inl rfl)
        · exact ih

theorem phase_eq_ready {h : History} : h.phase = .ready ↔ ¬ h.Closed ∧ ¬ h.Unrepaired := by
  have closed : h.phase = .closed ↔ _ := phase_eq_closed
  have degraded : h.phase = .degraded ↔ _ := phase_eq_degraded
  rcases h.phase_settled with settled | settled | settled <;> simp_all

end History

/-- The phase of a member is that of its history. -/
def Member.Follows {τ : Type} (m : Member (Recorded τ)) : Prop :=
  m.phase = History.phase m.transport.history

variable {τ ω : Type}

namespace Focus

theorem move_phase (next : Phase) (s : Focus τ ω) :
    (s.move next).member.phase = if s.member.phase = .closed then .closed else next := by
  unfold move
  by_cases closed : s.member.phase = .closed
  · simp [closed]
  · by_cases same : s.member.phase = next <;> simp [closed, same]

theorem settle_phase (database : String) (answer : Except ConnectionError Unit) (s : Focus τ ω) :
    (s.settle database answer).member.phase =
      if s.member.phase = .closed then .closed
      else if answer.isOk then .ready else .degraded := by
  cases answer <;> simp [settle, note, move_phase, count, Except.isOk, Except.toBool]

theorem restore_phase (s : Focus τ ω) :
    s.restore.member.phase = if s.member.phase = .degraded then .ready else s.member.phase := by
  unfold restore
  by_cases degraded : s.member.phase = .degraded <;> simp [move_phase, degraded]

variable [Transport τ ω]

theorem recover_phase (database : String) (s : Focus τ ω) :
    (s.recover database).2.member.phase =
      if s.member.phase = .closed then .closed
      else if (s.recover database).1.isOk then .ready else .degraded := by
  by_cases closed : s.member.phase = .closed <;>
    simp [recover, ensure, create, operate, settle_phase, move_phase, closed]

theorem recover_closed (database : String) {s : Focus τ ω} (closed : s.member.phase = .closed) :
    (s.recover database).2.member.phase = .closed := by
  rw [recover_phase, if_pos closed]

theorem attempt_closed (database : String) (b : Batch) {s : Focus τ ω}
    (closed : s.member.phase = .closed) : (s.attempt database b).2.member.phase = .closed := by
  cases answer : (s.written b).answer with
  | ok =>
    have still : (s.carry (s.written b)).succeed.member.phase = .closed := closed
    rw [attempt_of_ok answer, restore_phase, still]
    rfl
  | error e =>
    have still : ((s.carry (s.written b)).fail e).member.phase = .closed := closed
    rw [attempt_of_error answer]
    split
    · exact recover_closed database still
    · exact still

/-- A recovery is one creation. -/
theorem history_recover (database : String) (s : Focus (Recorded τ) ω) :
    (s.recover database).2.member.transport.history =
      .created ((s.move .recovering).create database).1 :: s.member.transport.history := by
  simp [recover, ensure, create, operate]
  rfl

/-- A recovery moves the phase of a member as its creation says. -/
theorem follows_recover (database : String) {s : Focus (Recorded τ) ω}
    (follows : s.member.Follows) : (s.recover database).2.member.Follows := by
  have answer : (s.recover database).1 = ensured ((s.move .recovering).create database).1 := rfl
  unfold Member.Follows at follows ⊢
  rw [history_recover, recover_phase, answer, History.phase_cons, ← follows, Happening.next_created]

theorem follows_close (s : Focus (Recorded τ) ω) : s.close.2.member.Follows := by
  have grown : s.close.2.member.transport.history =
      .closed s.close.1 :: s.member.transport.history := rfl
  unfold Member.Follows
  rw [grown, History.phase_cons, Happening.next_closed]
  rfl

theorem history_written (b : Batch) (s : Focus (Recorded τ) ω) :
    (s.written b).transport.history = .written (s.written b).answer :: s.member.transport.history :=
  rfl

theorem follows_attempt (database : String) (b : Batch) {s : Focus (Recorded τ) ω}
    (follows : s.member.Follows) : (s.attempt database b).2.member.Follows := by
  have written := s.history_written b
  cases answer : (s.written b).answer with
  | ok =>
    -- A write that succeeds moves degraded members only. That the others are ready or closed, and
    -- so where the history puts them, is known from the history alone.
    have settled := History.phase_settled s.member.transport.history
    rw [attempt_of_ok answer]
    unfold Member.Follows at follows ⊢
    rw [restore_transport, restore_phase]
    show (if s.member.phase = .degraded then .ready else s.member.phase) =
      History.phase (s.written b).transport.history
    rw [written, answer, History.phase_cons, Happening.next_written_ok, ← follows]
    rw [← follows] at settled
    rcases settled with settled | settled | settled <;> simp [settled]
  | error e =>
    have kept : ((s.carry (s.written b)).fail e).member.Follows := by
      show s.member.phase = History.phase (s.written b).transport.history
      rw [written, answer, History.phase_cons, Happening.next_written_error, ← follows]
    rw [attempt_of_error answer]
    split
    · exact follows_recover database kept
    · exact kept

end Focus

namespace Fleet

variable [Transport τ ω]

theorem keeps_follows :
    Keeps fun f : Fleet (Recorded τ) ω => f.Everywhere fun _ m => m.Follows :=
  .everywhere (fun database b _ _ => Focus.follows_attempt database b)
    (fun database _ _ => Focus.follows_recover database) (fun _ s _ => s.follows_close)

/-- A closed member stays closed. -/
theorem keeps_closed (i : Nat) :
    Keeps fun f : Fleet τ ω => f.Everywhere fun j m => j = i → m.phase = .closed :=
  .everywhere (fun database b _ _ closed here => Focus.attempt_closed database b (closed here))
    (fun database _ _ closed here => Focus.recover_closed database (closed here))
    (fun _ _ _ _ => rfl)

theorem follows_ready (transports : List τ) (net : ω) :
    (ready (transports.map Recorded.fresh) net).Everywhere fun _ m => m.Follows := by
  intro i m found
  simp only [ready, List.map_map, List.getElem?_map, Option.map_eq_some_iff] at found
  obtain ⟨t, -, rfl⟩ := found
  rfl

theorem closed_run {i : Nat} {f : Fleet τ ω} (moves : List Move)
    (closed : f.members[i]?.map Member.phase = some .closed) :
    (f.run moves).members[i]?.map Member.phase = some .closed := by
  obtain ⟨m, found, phase⟩ := Option.map_eq_some_iff.mp closed
  have before : f.Everywhere fun j m => j = i → m.phase = .closed := by
    rintro j m' there rfl
    rw [found] at there
    exact Option.some.inj there ▸ phase
  have place : i < (f.run moves).members.length := by
    rw [length_run]
    exact (List.getElem?_eq_some_iff.mp found).1
  have after := (keeps_closed i).run moves before i _ (List.getElem?_eq_getElem place) rfl
  rw [List.getElem?_eq_getElem place, Option.map_some, after]

/-- After every run of a pool that began ready, each member is in the phase that its history says:
closed if it was ever asked to close, else degraded if a recovery failed and no write and no
recovery succeeded since, else ready. Recording what happens changes nothing of the run. Closed is
never left. -/
theorem phase_of_history (transports : List τ) (net : ω) (moves : List Move) :
    let recorded := (ready (transports.map Recorded.fresh) net).run moves
    recorded.forget = (ready transports net).run moves ∧
    recorded.members.length = transports.length ∧
    (∀ m ∈ recorded.members,
      (m.phase = .closed ↔ History.Closed m.transport.history) ∧
      (m.phase = .degraded ↔
        ¬ History.Closed m.transport.history ∧ History.Unrepaired m.transport.history) ∧
      (m.phase = .ready ↔
        ¬ History.Closed m.transport.history ∧ ¬ History.Unrepaired m.transport.history) ∧
      m.phase ≠ .unconnected ∧ m.phase ≠ .recovering) ∧
    ∀ (later : List Move) (i : Nat),
      ((ready transports net).run moves).members[i]?.map Member.phase = some .closed →
      ((ready transports net).run (moves ++ later)).members[i]?.map Member.phase =
        some .closed := by
  refine ⟨?_, ?_, fun m mem => ?_, fun later i closed => ?_⟩
  · rw [forget_run, forget_ready]
  · rw [length_run]
    simp [ready]
  · obtain ⟨i, found⟩ := List.mem_iff_getElem?.mp mem
    have follows : m.phase = History.phase m.transport.history :=
      keeps_follows.run moves (follows_ready transports net) i m found
    rw [follows]
    refine ⟨History.phase_eq_closed, History.phase_eq_degraded, History.phase_eq_ready, ?_⟩
    rcases History.phase_settled m.transport.history with settled | settled | settled <;>
      simp [settled]
  · rw [run_append]
    exact closed_run later closed

/-- A member whose first write finds its database missing, which then cannot be created. Closing it
fails as well. -/
def unlucky : Scripted :=
  { Scripted.healthy "a" with script := [.schemaMissing], failCreate := true, failClose := true }

/-- A pool of two members, of which the unlucky one comes first. -/
def uneven : Fleet Scripted Unit := ready [unlucky, Scripted.healthy "b"] ()

/-- Any batch. -/
def someBatch : Batch := ⟨⟨"db", "", ""⟩, []⟩

theorem uneven_phases_of_history :
    (uneven.run [.dispatch "db" someBatch [0, 1]]).members.map Member.phase =
      [.degraded, .ready] ∧
    (uneven.run [.dispatch "db" someBatch [0, 1], .dispatch "db" someBatch [0]]).members.map
      Member.phase = [.ready, .ready] ∧
    (uneven.run [.dispatch "db" someBatch [0, 1], .close 0]).members[0]?.map Member.phase =
      some .closed ∧
    ∀ later, (uneven.run ([.dispatch "db" someBatch [0, 1], .close 0] ++ later)).members[0]?.map
      Member.phase = some .closed := by
  have closed : (uneven.run [.dispatch "db" someBatch [0, 1], .close 0]).members[0]?.map
      Member.phase = some .closed := by decide
  exact ⟨by decide, by decide, closed, fun later =>
    (phase_of_history [unlucky, Scripted.healthy "b"] () _).2.2.2 later 0 closed⟩

end Fleet

end PointRelay
