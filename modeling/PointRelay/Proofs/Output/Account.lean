import PointRelay.Proofs.Output.Upkeep

/-!
# One story over whole runs

In every run the counters of the connections, the numbers that a monitor collects and the events
that an operator reads agree: they are counts of what happened to the connections and of what the
writes answered.
-/

namespace PointRelay

namespace Note

theorem counts_taken {endpoint : String} {n : Note} :
    n.counter? = some (.writeAttempts "none" endpoint "success") ↔ n = .accepted endpoint := by
  cases n <;> simp [counter?, Series.writeAttempts, Series.recoveries, Series.rebuilds,
    Series.batches]

theorem counts_refused {c : FailureClass} {endpoint : String} {n : Note} :
    n.counter? = some (.writeAttempts c.text endpoint "failure") ↔
      ∃ e, n = .refused endpoint e ∧ e.failureClass = c := by
  cases n <;> simp [counter?, Series.writeAttempts, Series.recoveries, Series.rebuilds,
    Series.batches, FailureClass.text_inj, and_comm]

theorem counts_recovered {endpoint : String} {n : Note} :
    n.counter? = some (.recoveries endpoint "success") ↔ n = .recovered endpoint := by
  cases n <;> simp [counter?, Series.writeAttempts, Series.recoveries, Series.rebuilds,
    Series.batches]

theorem counts_unrecovered {endpoint : String} {n : Note} :
    n.counter? = some (.recoveries endpoint "failure") ↔
      ∃ database e, n = .recoveryFailed endpoint database e := by
  cases n <;> simp [counter?, Series.writeAttempts, Series.recoveries, Series.rebuilds,
    Series.batches]

theorem counts_written {n : Note} :
    n.counter? = some (.batches "success") ↔ ∃ attempts, n = .batchWritten attempts := by
  cases n <;> simp [counter?, Series.writeAttempts, Series.recoveries, Series.rebuilds,
    Series.batches]

theorem counts_failed {n : Note} :
    n.counter? = some (.batches "failure") ↔ ∃ attempts e, n = .batchFailed attempts e := by
  cases n <;> simp [counter?, Series.writeAttempts, Series.recoveries, Series.rebuilds,
    Series.batches]

end Note

/-- The event of a write that a member at an endpoint refused. -/
def Event.isFailureAt (endpoint : String) (e : Event) : Bool :=
  e.message = "Write to endpoint failed" && e.fields.contains ("endpoint", endpoint)

theorem Journal.countP_events (p : Event → Bool) (j : Journal) :
    j.events.countP p = j.countP fun n => n.event?.any p := by
  unfold Journal.events
  rw [List.countP_filterMap, List.countP_reverse]
  refine List.countP_congr fun n _ => ?_
  cases n.event? <;> rfl

theorem Note.event_isFailureAt {endpoint : String} {n : Note} :
    n.event?.any (Event.isFailureAt endpoint) = true ↔ ∃ e, n = .refused endpoint e := by
  cases n <;> simp [event?, Event.isFailureAt, eq_comm]

namespace Happening

variable (e endpoint database : String) (x : Happening)

theorem any_taken :
    (x.note? e database).any
        (fun n => n.counter? = some (.writeAttempts "none" endpoint "success")) =
      (decide (e = endpoint) && x.accepts) := by
  simp only [Note.counts_taken]
  cases x with
  | written answer => cases answer <;> simp [note?, accepts, Except.isOk, Except.toBool]
  | created answer => cases made : Focus.ensured answer <;> simp [note?, accepts, made]
  | closed answer => simp [note?, accepts]

theorem any_refused (c : FailureClass) :
    (x.note? e database).any
        (fun n => n.counter? = some (.writeAttempts c.text endpoint "failure")) =
      (decide (e = endpoint) && x.refusesWith c) := by
  rw [Bool.eq_iff_iff]
  simp only [Option.any_eq_true, decide_eq_true_eq, Note.counts_refused]
  cases x with
  | written answer =>
    cases answer with
    | ok => simp [note?, refusesWith]
    | error error => simp [note?, refusesWith]
  | created answer => cases made : Focus.ensured answer <;> simp [note?, refusesWith, made]
  | closed answer => simp [note?, refusesWith]

theorem any_recovered :
    (x.note? e database).any
        (fun n => n.counter? = some (.recoveries endpoint "success")) =
      (decide (e = endpoint) && x.recovers) := by
  simp only [Note.counts_recovered]
  cases x with
  | written answer => cases answer <;> simp [note?, recovers]
  | created answer =>
    cases made : Focus.ensured answer <;>
      simp [note?, recovers, made, Except.isOk, Except.toBool]
  | closed answer => simp [note?, recovers]

theorem any_unrecovered :
    (x.note? e database).any
        (fun n => n.counter? = some (.recoveries endpoint "failure")) =
      (decide (e = endpoint) && x.failsToRecover) := by
  rw [Bool.eq_iff_iff]
  simp only [Option.any_eq_true, decide_eq_true_eq, Note.counts_unrecovered]
  cases x with
  | written answer => cases answer <;> simp [note?, failsToRecover]
  | created answer =>
    cases made : Focus.ensured answer <;>
      simp [note?, failsToRecover, made, Except.isOk, Except.toBool]
  | closed answer => simp [note?, failsToRecover]

theorem any_event :
    (x.note? e database).any (fun n => n.event?.any (Event.isFailureAt endpoint)) =
      (decide (e = endpoint) && x.refuses) := by
  rw [Bool.eq_iff_iff, Option.any_eq_true]
  simp only [Note.event_isFailureAt]
  cases x with
  | written answer => cases answer <;> simp [note?, refuses, Except.isOk, Except.toBool]
  | created answer => cases made : Focus.ensured answer <;> simp [note?, refuses, made]
  | closed answer => simp [note?, refuses]

end Happening

variable {φ τ ω : Type}

theorem sum_map_set {α : Type} {g : α → Nat} {xs : List α} {i more : Nat} {x y : α}
    (found : xs[i]? = some x) (grown : g y = g x + more) :
    ((xs.set i y).map g).sum = (xs.map g).sum + more := by
  induction xs generalizing i with
  | nil => cases found
  | cons z rest ih =>
    cases i with
    | zero =>
      obtain rfl := Option.some.inj found
      simp only [List.set_cons_zero, List.map_cons, List.sum_cons, grown]
      omega
    | succ i =>
      simp only [List.set_cons_succ, List.map_cons, List.sum_cons, ih found]
      omega

namespace Fleet

/-- The batches that all members have counted as written. -/
def written (f : Fleet τ ω) : Nat := (f.members.map fun m => m.counters.writes).sum

theorem written_put {f : Fleet τ ω} {i more : Nat} {s t : Focus τ ω} (there : f.focus? i = some s)
    (counted : t.member.counters.writes = s.member.counters.writes + more) :
    (f.put i t).written = f.written + more :=
  sum_map_set (focus?_eq_some.mp there).1 counted

/-- The numbers that are collected for an endpoint are sums over the members there, and so is the
number of its events. -/
structure AccountsFor (endpoint : String) (f : Fleet (Recorded τ) ω) : Prop where
  accepted : f.journal.total (.writeAttempts "none" endpoint "success") =
    f.sumAt endpoint fun m => m.counters.writes
  refused : ∀ c : FailureClass, f.journal.total (.writeAttempts c.text endpoint "failure") =
    f.sumAt endpoint fun m => m.transport.history.countP (Happening.refusesWith c)
  recovered : f.journal.total (.recoveries endpoint "success") =
    f.sumAt endpoint fun m => m.counters.recoveries - m.counters.recoveryFailures
  recoveryFailed : f.journal.total (.recoveries endpoint "failure") =
    f.sumAt endpoint fun m => m.counters.recoveryFailures
  events : f.journal.events.countP (Event.isFailureAt endpoint) =
    f.sumAt endpoint fun m => m.counters.failures

/-- A counter of what happens to members at an endpoint is a sum over them. -/
theorem Told.total_eq {database endpoint : String} {f : Fleet (Recorded τ) ω}
    (told : f.Told database) {s : Series} {q : Happening → Bool} (byOne : s.ByOne)
    (trial : ∀ n : Note, n.counter? = some s → n.isTrial = true)
    (reads : ∀ (e : String) (x : Happening),
      (x.note? e database).any (fun n => n.counter? = some s) = (decide (e = endpoint) && q x)) :
    f.journal.total s = f.sumAt endpoint fun m => m.transport.history.countP q := by
  rw [Journal.total_eq_counted byOne, Journal.counted]
  exact told.countP_eq_sumAt (fun n counts => trial n (of_decide_eq_true counts)) reads

theorem Told.accountsFor {database : String} {f : Fleet (Recorded τ) ω} (told : f.Told database)
    (tallied : ∀ m ∈ f.members, m.Tallied) (endpoint : String) : f.AccountsFor endpoint where
  accepted := by
    rw [told.total_eq (Series.byOne_writeAttempts "none" endpoint "success")
      (fun n counts => Note.counts_taken.mp counts ▸ rfl)
      fun e x => x.any_taken e endpoint database]
    exact sumAt_congr fun m mem => (tallied m mem).writes.symm
  refused c := by
    refine told.total_eq (Series.byOne_writeAttempts c.text endpoint "failure") (fun n counts => ?_)
      fun e x => x.any_refused e endpoint database c
    obtain ⟨error, rfl, -⟩ := Note.counts_refused.mp counts
    rfl
  recovered := by
    rw [told.total_eq (Series.byOne_recoveries endpoint "success")
      (fun n counts => Note.counts_recovered.mp counts ▸ rfl)
      fun e x => x.any_recovered e endpoint database]
    refine sumAt_congr fun m mem => ?_
    have made := Happening.countP_isCreation m.transport.history
    have all := (tallied m mem).recoveries
    have failed := (tallied m mem).recoveryFailures
    omega
  recoveryFailed := by
    rw [told.total_eq (Series.byOne_recoveries endpoint "failure") (fun n counts => ?_)
      fun e x => x.any_unrecovered e endpoint database]
    · exact sumAt_congr fun m mem => (tallied m mem).recoveryFailures.symm
    · obtain ⟨database, error, rfl⟩ := Note.counts_unrecovered.mp counts
      rfl
  events := by
    rw [Journal.countP_events, told.countP_eq_sumAt (fun n counts => ?_)
      fun e x => x.any_event e endpoint database]
    · exact sumAt_congr fun m mem => (tallied m mem).failures.symm
    · obtain ⟨error, rfl⟩ := Note.event_isFailureAt.mp counts
      rfl

/-- Members and journal tell one story of the batches and databases that were asked for, and the
journal tells how many writes succeeded and how many failed. -/
structure Audited (database : String) (succeeded failed : Nat) (f : Fleet (Recorded τ) ω) :
    Prop where
  told : f.Told database
  tallied : ∀ m ∈ f.members, m.Tallied
  succeeded : f.journal.counted (.batches "success") = succeeded
  failed : f.journal.counted (.batches "failure") = failed

namespace Audited

variable {database : String} {succeeded failed : Nat} {f g : Fleet (Recorded τ) ω}

/-- What an operation tells of a member keeps its fleet audited. -/
theorem put (audited : f.Audited database succeeded failed) {i : Nat}
    {s t : Focus (Recorded τ) ω} (there : f.focus? i = some s) (tells : s.Tells database t)
    (tallied : t.member.Tallied) : (f.put i t).Audited database succeeded failed := by
  have notes := tells
  obtain ⟨more, notes, -⟩ := notes
  refine ⟨audited.told.put there tells, fun m mem => ?_, ?_, ?_⟩
  · rcases List.mem_or_eq_of_mem_set mem with old | rfl
    · exact audited.tallied m old
    · exact tallied
  · rw [← audited.succeeded]
    refine counted_put (fun n counts => ?_) there notes
    obtain ⟨attempts, rfl⟩ := Note.counts_written.mp counts
    rfl
  · rw [← audited.failed]
    refine counted_put (fun n counts => ?_) there notes
    obtain ⟨attempts, e, rfl⟩ := Note.counts_failed.mp counts
    rfl

/-- Members that counted nothing and quiet notes keep a fleet audited. -/
theorem join (audited : f.Audited database succeeded failed) {fresh : List (Member (Recorded τ))}
    {notes : Journal} (untold : ∀ m ∈ fresh, m.transport.history = [])
    (zero : ∀ m ∈ fresh, m.counters = .zero) (quiet : ∀ n ∈ notes, n.isQuiet = true)
    (members : g.members = f.members ++ fresh) (journal : g.journal = notes ++ f.journal) :
    g.Audited database succeeded failed := by
  have none : ∀ s : Series, (∀ n : Note, n.counter? = some s → n.isOutcome = true) →
      g.journal.counted s = f.journal.counted s := by
    intro s outcome
    rw [journal, Journal.counted, List.countP_append, Journal.counted, Nat.add_eq_right,
      List.countP_eq_zero]
    intro n mem counts
    have loud := quiet n mem
    rw [Note.isQuiet, outcome n (of_decide_eq_true counts), Bool.not_true, Bool.and_false] at loud
    cases loud
  refine ⟨?_, ?_, ?_, ?_⟩
  · have silent : Journal.trials notes = [] := by
      refine List.filter_eq_nil_iff.mpr fun n mem trial => ?_
      have loud := quiet n mem
      rw [Note.isQuiet, trial] at loud
      cases loud
    have blank : fresh.flatMap (Member.story database) = [] := by
      refine List.flatMap_eq_nil_iff.mpr fun m mem => ?_
      rw [Member.story, untold m mem]
      rfl
    rw [Told, journal, Journal.trials_append, silent, members, List.flatMap_append, blank,
      List.append_nil]
    exact audited.told
  · intro m mem
    rw [members] at mem
    rcases List.mem_append.mp mem with old | new
    · exact audited.tallied m old
    · constructor <;> rw [untold m new, zero m new] <;> rfl
  · rw [none _ fun n counts => ?_, audited.succeeded]
    obtain ⟨attempts, rfl⟩ := Note.counts_written.mp counts
    rfl
  · rw [none _ fun n counts => ?_, audited.failed]
    obtain ⟨attempts, e, rfl⟩ := Note.counts_failed.mp counts
    rfl

/-- A note on how a write ended is counted. -/
theorem note (audited : f.Audited database succeeded failed) {n : Note}
    (quiet : n.isTrial = false) :
    (f.note n).Audited database
      (succeeded + if n.counter? = some (.batches "success") then 1 else 0)
      (failed + if n.counter? = some (.batches "failure") then 1 else 0) := by
  refine ⟨?_, audited.tallied, ?_, ?_⟩
  · have trials : Journal.trials (n :: f.journal) = f.journal.trials :=
      List.filter_cons_of_neg (by simp [quiet])
    unfold Told Fleet.note
    rw [trials]
    exact audited.told
  · rw [← audited.succeeded]
    simp [Fleet.note, Journal.counted, List.countP_cons]
  · rw [← audited.failed]
    simp [Fleet.note, Journal.counted, List.countP_cons]

end Audited

variable [Transport τ ω] {database : String} {b : Batch}

theorem Refused.written_eq {places : List Nat} {f g : Fleet τ ω}
    (refused : Refused database b places f g) : g.written = f.written := by
  induction refused with
  | nil => rfl
  | @cons i rest f g s t e there trial later ih =>
    have counted := Focus.writes_attempt database b s
    rw [trial] at counted
    rw [ih, written_put there counted]
    rfl

/-- Members count a batch as written just when one of them takes it. -/
theorem Tried.written_eq {poolSize attempts : Nat} {places : List Nat} {f g : Fleet τ ω}
    {v : Verdict} (tried : Tried database b poolSize attempts places f v g) :
    g.written = f.written + match v with
      | .delivered _ _ => 1
      | .exhausted _ _ => 0 := by
  cases tried with
  | @delivered before after i mid s t order refused there taken =>
    have counted := Focus.writes_attempt database b s
    rw [taken] at counted
    rw [written_put there counted, refused.written_eq]
    rfl
  | exhausted refused => exact refused.written_eq

end Fleet

namespace Output

variable [Transport τ ω] [Factory φ τ ω] [untried : Untried φ]

theorem upkeep_audited (database : String) (succeeded failed written : Nat) :
    Upkeep (Recorder φ) fun f : Fleet (Recorded τ) ω =>
      f.Audited database succeeded failed ∧ f.written = written where
  close := by
    rintro f i s there ⟨audited, written⟩
    constructor
    · refine audited.put there (Focus.tells_close database s) ?_
      rw [Focus.told_member]
      exact Focus.tallied_close (audited.tallied _ (Fleet.mem_of_focus? there))
    · have counted : (s.close.2.told s.close.1).member.counters.writes =
          s.member.counters.writes + 0 := by
        rw [Focus.told_member]
        rfl
      rw [Fleet.written_put there counted, Nat.add_zero, written]
  note := by
    rintro f n quiet ⟨audited, written⟩
    have untold : ∀ m ∈ ([] : List (Member (Recorded τ))), m.transport.history = [] := nofun
    have zero : ∀ m ∈ ([] : List (Member (Recorded τ))), m.counters = .zero := nofun
    have quiets : ∀ k ∈ [n], k.isQuiet = true := fun _ mem => List.mem_singleton.mp mem ▸ quiet
    exact ⟨audited.join untold zero quiets (List.append_nil _).symm rfl, written⟩
  build := by
    rintro o ⟨audited, written⟩
    have zero : ∀ m ∈ o.handout, m.counters = .zero := by
      intro m mem
      unfold handout at mem
      split at mem
      · rename_i ms answer
        exact Untried.counters_zero o.factory o.fleet.net ms answer m mem
      · cases mem
    rw [build_eq]
    refine ⟨audited.join ?_ zero (Untried.notes_quiet o.factory o.fleet.net) rfl rfl, ?_⟩
    · intro m mem
      rw [handout_recorded] at mem
      obtain ⟨plain, -, rfl⟩ := List.mem_map.mp mem
      rfl
    · have nothing : (o.handout.map fun m => m.counters.writes).sum = 0 := by
        refine List.sum_eq_zero fun n mem => ?_
        obtain ⟨m, there, rfl⟩ := List.mem_map.mp mem
        rw [zero m there]
        rfl
      show ((o.fleet.members ++ o.handout).map fun m => m.counters.writes).sum = _
      rw [List.map_append, List.sum_append, nothing]
      exact written

/-- What an account tells of the members, the journal and the answers so far. -/
structure Accounts (answers : List Answer) (o : Output (Recorder φ) (Recorded τ) ω) : Prop where
  audited : o.fleet.Audited o.settings.database (answers.countP Answer.isDelivered)
    (answers.countP Answer.isExhausted)
  written : o.fleet.written = answers.countP Answer.isDelivered

theorem accounts_step {before : List Answer} {answer : Answer} {a : Action}
    {o p : Output (Recorder φ) (Recorded τ) ω} (step : Step o a answer p)
    (accounts : o.Accounts before) : p.Accounts (before ++ [answer]) := by
  obtain ⟨audited, written⟩ := accounts
  have upkeep := upkeep_audited (φ := φ) (τ := τ) (ω := ω) o.settings.database
    (before.countP Answer.isDelivered) (before.countP Answer.isExhausted)
    (before.countP Answer.isDelivered)
  have settings := settings_step step
  rcases upkeep.step step ⟨audited, written⟩ with
    ⟨⟨audited, written⟩, delivered, exhausted⟩ |
      ⟨b, poolSize, places, v, f, q, ⟨audited, written⟩, tried, rfl, rfl⟩
  · constructor
    · rw [settings]
      simpa [List.countP_append, List.countP_cons, delivered, exhausted] using audited
    · simpa [List.countP_append, List.countP_cons, delivered] using written
  · have count := tried.written_eq
    have kept : q.fleet.Audited o.settings.database (before.countP Answer.isDelivered)
        (before.countP Answer.isExhausted) :=
      tried.keeps (fun {f i s} there audited => audited.put there
        (Focus.tells_attempt o.settings.database b s)
        (Focus.tallied_attempt o.settings.database b
          (audited.tallied _ (Fleet.mem_of_focus? there)))) audited
    rw [written] at count
    cases v with
    | delivered endpoint attempts =>
      have noted := kept.note (n := .batchWritten attempts) rfl
      constructor
      · rw [settings, List.countP_append, List.countP_append]
        exact noted
      · rw [List.countP_append]
        exact count
    | exhausted attempted poolSize =>
      have noted := kept.note (n := .batchFailed attempted (.poolExhausted attempted poolSize)) rfl
      constructor
      · rw [settings, List.countP_append, List.countP_append]
        exact noted
      · rw [List.countP_append]
        exact count

theorem accounts_run (actions : List Action) {before : List Answer}
    {o : Output (Recorder φ) (Recorded τ) ω} (sound : o.Sound) (accounts : o.Accounts before) :
    (run actions o).2.Accounts (before ++ (run actions o).1) := by
  induction actions generalizing o before with
  | nil =>
    rw [run, List.append_nil]
    exact accounts
  | cons a rest ih =>
    have step := step_perform sound a
    have later := ih (sound.step step) (accounts_step step accounts)
    rw [List.append_assoc] at later
    exact later

omit [Transport τ ω] [Factory φ τ ω] untried in
theorem accounts_new (settings : Settings) (factory : φ) (net : ω) (orders : List (List Nat)) :
    (new settings ⟨factory⟩ net orders : Output (Recorder φ) (Recorded τ) ω).Accounts [] :=
  ⟨⟨.nil, fun _ mem => (nomatch mem), rfl, rfl⟩, rfl⟩

end Output

end PointRelay
