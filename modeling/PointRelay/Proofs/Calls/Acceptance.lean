import PointRelay.Proofs.Calls.Steps

/-!
# Acceptance under interleaving

A write under way hands its batch to one member after another and stops at the first that takes it.
However calls are interleaved, the batch of each write is so taken by one member at most, and the
ledgers hold what was taken and nothing else.
-/

namespace PointRelay

/-- A member took the batch of a call. -/
structure Acceptance where
  call : Nat
  place : Nat
  batch : Batch

/-- The batches that a member took, newest first, by a log of acceptances. -/
def received (i : Nat) (log : List Acceptance) : List Batch :=
  (log.filter fun a => a.place = i).map Acceptance.batch

theorem received_cons (i : Nat) (a : Acceptance) (log : List Acceptance) :
    received i (a :: log) = if a.place = i then a.batch :: received i log else received i log := by
  unfold received
  by_cases same : a.place = i <;> simp [same]

namespace Call

/-- The batch that a write sends. -/
def batch? : Call → Option Batch
  | .preparing b => some b
  | .dispatching d => some d.batch
  | .connect | .installing _ | .replacing _ _ | .write _ | .close | .closing _ _ | .done _ => none

/-- How many members have taken the batch of a write, as far as its dispatch or its answer tells. -/
def taken : Call → Nat
  | .dispatching d => d.taken
  | .done (.written (.ok report)) => if report.endpoint.isSome then 1 else 0
  | .done (.written (.error _)) | .done (.connected _) | .done (.closed _)
  | .connect | .installing _ | .replacing _ _ | .write _ | .preparing _ | .close | .closing _ _ => 0

theorem taken_le_one (c : Call) : c.taken ≤ 1 := by
  unfold taken
  split
  · unfold Dispatch.taken
    split <;> omega
  · split <;> omega
  all_goals omega

/-- What a call is at now, when it began as another one: a write that waits is the write it was,
and one that sends a batch sends the records it was given. -/
structure Serves (settings : Settings) (first c : Call) : Prop where
  waits : ∀ records, c = .write records → first = .write records
  sends : ∀ b, c.batch? = some b →
    ∃ records, first = .write records ∧ Batch.encode settings records = .ok b

variable {φ τ ω : Type} [Transport τ ω] [Factory φ τ ω] {o p : Output φ τ ω} {first c c' : Call}

theorem Serves.step (serves : Serves o.settings first c) (step : Step o c c' p) :
    Serves o.settings first c' := by
  cases step with
  | refused | built | installed | replaced | connected | unencoded | nothing | exhausted
  | concluded | shut | released | closed | stays => exact ⟨nofun, nofun⟩
  | waits encoded | begun encoded =>
    refine ⟨nofun, fun b sent => ?_⟩
    obtain rfl := Option.some.inj sent
    exact ⟨_, serves.waits _ rfl, encoded⟩
  | prepared order =>
    refine ⟨nofun, fun b sent => ?_⟩
    obtain rfl := Option.some.inj sent
    exact serves.sends _ rfl
  | dispatched step =>
    refine ⟨nofun, fun b sent => ?_⟩
    obtain rfl := Option.some.inj sent
    rw [step.goes_on.1]
    exact serves.sends _ rfl

/-- The member that the next step of a call hands its batch to, and the batch, if that takes it. -/
def acceptance? (c : Call) (o : Output φ τ ω) : Option (Nat × Batch) :=
  match c with
  | .dispatching d => (d.acceptance? o.fleet).map fun i => (i, d.batch)
  | .connect | .installing _ | .replacing _ _ | .write _ | .preparing _ | .close | .closing _ _
  | .done _ => none

omit [Factory φ τ ω] in
theorem acceptance?_eq_some {x : Nat × Batch} (accepted : c.acceptance? o = some x) :
    ∃ d, c = .dispatching d ∧ d.acceptance? o.fleet = some x.1 ∧ d.batch = x.2 := by
  cases c with
  | dispatching d =>
    obtain ⟨i, there, rfl⟩ := Option.map_eq_some_iff.mp accepted
    exact ⟨d, rfl, there, rfl⟩
  | connect | installing | replacing | write | preparing | close | closing | done => cases accepted

/-- A call has given its batch to one member more when a member takes it, and else to as many as
before. -/
theorem Step.taken_eq (step : Step o c c' p) :
    c'.taken = c.taken + (c.acceptance? o).toList.length := by
  cases step with
  | refused | built | installed | replaced | connected | unencoded | nothing | waits | begun
  | exhausted | prepared | shut | released | closed | stays => rfl
  | @dispatched d d' g step =>
    have counted := step.taken_eq
    rw [acceptance?, Option.toList_map, List.length_map]
    exact counted
  | @concluded d v g step =>
    have counted := step.taken_eq
    rw [acceptance?, Option.toList_map, List.length_map]
    cases v <;> exact counted

end Call

namespace Calls

section
variable {φ τ ω : Type} [Transport τ ω]

/-- The acceptance that the next step of a call leads to, if it does. -/
def acceptance? (k : Nat) (s : Calls φ τ ω) : Option Acceptance :=
  s.calls[k]?.bind fun c => (c.acceptance? s.output).map fun x => ⟨k, x.1, x.2⟩

theorem acceptance?_of_some {k : Nat} {s : Calls φ τ ω} {c : Call}
    (found : s.calls[k]? = some c) :
    s.acceptance? k = (c.acceptance? s.output).map fun x => ⟨k, x.1, x.2⟩ := by
  simp [acceptance?, found]

variable [Factory φ τ ω]

/-- The acceptances of a run, newest first. -/
def acceptances : List Nat → Calls φ τ ω → List Acceptance
  | [], _ => []
  | k :: rest, s => acceptances rest (s.step k) ++ (s.acceptance? k).toList

/-- The calls serve what they began as, and a log tells of the batches that were taken. -/
structure Logged (settings : Settings) (first : List Call) (log : List Acceptance)
    (s : Calls φ τ ω) : Prop where
  unchanged : s.output.settings = settings
  serves : ∀ (k : Nat) (c : Call), s.calls[k]? = some c →
    ∃ began, first[k]? = some began ∧ Call.Serves settings began c
  /-- The batch of a call was taken as often as the call tells. -/
  taken : ∀ (k : Nat) (c : Call), s.calls[k]? = some c → log.countP (fun a => a.call = k) = c.taken
  /-- What was taken is what the records of a write are encoded to. -/
  sent : ∀ a ∈ log, ∃ records, first[a.call]? = some (.write records) ∧
    Batch.encode settings records = .ok a.batch

theorem Logged.step {settings : Settings} {first : List Call} {log : List Acceptance}
    {s : Calls φ τ ω} (logged : s.Logged settings first log) (sound : s.Sound) (k : Nat) :
    (s.step k).Logged settings first ((s.acceptance? k).toList ++ log) := by
  cases found : s.calls[k]? with
  | none =>
    have none : s.acceptance? k = .none := by simp [acceptance?, found]
    rw [step_of_none found, none]
    exact logged
  | some c =>
    have step := sound.step_call found
    obtain ⟨same, serves, taken, sent⟩ := logged
    obtain ⟨began, there, serve⟩ := serves k c found
    rw [step_of_some found, acceptance?_of_some found]
    refine ⟨step.settings_eq.trans same, ?_, ?_, ?_⟩
    · intro j c' found'
      by_cases mine : j = k
      · subst mine
        rw [List.getElem?_set_self (List.getElem?_eq_some_iff.mp found).1] at found'
        obtain rfl := Option.some.inj found'
        refine ⟨began, there, ?_⟩
        rw [← same] at serve ⊢
        exact serve.step step
      · rw [List.getElem?_set_ne (Ne.symm mine)] at found'
        exact serves j c' found'
    · intro j c' found'
      rw [List.countP_append, Option.toList_map]
      by_cases mine : j = k
      · subst mine
        rw [List.getElem?_set_self (List.getElem?_eq_some_iff.mp found).1] at found'
        obtain rfl := Option.some.inj found'
        rw [step.taken_eq, taken j c found, List.countP_map, Nat.add_comm]
        congr 1
        exact List.countP_eq_length.mpr fun _ _ => decide_eq_true rfl
      · rw [List.getElem?_set_ne (Ne.symm mine)] at found'
        rw [taken j c' found', List.countP_map, Nat.add_eq_right]
        exact List.countP_eq_zero.mpr fun _ _ same => mine (of_decide_eq_true same).symm
    · intro a mem
      rcases List.mem_append.mp mem with new | old
      · obtain ⟨x, accepted, rfl⟩ := Option.map_eq_some_iff.mp (Option.mem_toList.mp new)
        obtain ⟨d, rfl, -, batch⟩ := Call.acceptance?_eq_some accepted
        obtain ⟨records, rfl, encoded⟩ := serve.sends d.batch rfl
        exact ⟨records, there, by rw [← batch]; exact encoded⟩
      · exact sent a old

theorem Logged.run {settings : Settings} {first : List Call} {log : List Acceptance}
    {s : Calls φ τ ω} (logged : s.Logged settings first log) (sound : s.Sound)
    (choices : List Nat) :
    (s.run choices).Logged settings first (s.acceptances choices ++ log) := by
  induction choices generalizing s log with
  | nil => exact logged
  | cons k rest ih =>
    have later := ih (logged.step sound k) (sound.step k)
    rw [← List.append_assoc] at later
    exact later

end

variable {φ τ ω : Type} [Ledger τ ω] [Factory φ τ ω]

/-- The ledgers hold what was taken since the connections were handed out, by a log. -/
structure Ledgered (handedOut : List (Member τ)) (log : List Acceptance) (s : Calls φ τ ω) :
    Prop where
  within : ∀ a ∈ log, a.place < handedOut.length
  ledgers : s.output.fleet.ledgers = handedOut.mapIdx fun i m => received i log ++ m.accepted

namespace Ledgered

variable {handedOut : List (Member τ)} {log : List Acceptance} {s p : Calls φ τ ω}

omit [Factory φ τ ω] in
/-- New members have taken nothing. -/
theorem take (ledgered : s.Ledgered handedOut log) {fresh : List (Member τ)}
    (taken : p.output.fleet.members = s.output.fleet.members ++ fresh) :
    p.Ledgered (handedOut ++ fresh) log := by
  obtain ⟨within, ledgers⟩ := ledgered
  constructor
  · intro a mem
    rw [List.length_append]
    exact Nat.lt_add_right _ (within a mem)
  · have nothing : ∀ i, received (i + handedOut.length) log = [] := by
      intro i
      refine List.map_eq_nil_iff.mpr (List.filter_eq_nil_iff.mpr fun a mem same => ?_)
      have := within a mem
      have := of_decide_eq_true same
      omega
    unfold Fleet.ledgers at ledgers ⊢
    rw [taken, List.map_append, ledgers, List.mapIdx_append]
    refine congrArg _ (List.ext_getElem? fun j => ?_)
    rw [List.getElem?_map, List.getElem?_mapIdx]
    simp only [nothing, List.nil_append]

omit [Factory φ τ ω] in
/-- A batch that a member takes goes into its ledger. -/
theorem receive (ledgered : s.Ledgered handedOut log) {a : Acceptance} {old : List Batch}
    (found : s.output.fleet.ledgers[a.place]? = some old)
    (taken : p.output.fleet.ledgers = s.output.fleet.ledgers.set a.place (a.batch :: old)) :
    p.Ledgered handedOut (a :: log) := by
  obtain ⟨within, ledgers⟩ := ledgered
  rw [ledgers] at found taken
  have place : a.place < handedOut.length := by
    simpa using (List.getElem?_eq_some_iff.mp found).1
  refine ⟨List.forall_mem_cons.mpr ⟨place, within⟩, ?_⟩
  rw [taken]
  refine List.ext_getElem? fun j => ?_
  by_cases here : a.place = j
  · subst here
    rw [List.getElem?_set_self (by simpa using place)]
    rw [List.getElem?_mapIdx] at found ⊢
    obtain ⟨m, there, rfl⟩ := Option.map_eq_some_iff.mp found
    rw [there, Option.map_some, received_cons, if_pos rfl]
    rfl
  · rw [List.getElem?_set_ne here, List.getElem?_mapIdx, List.getElem?_mapIdx]
    simp only [received_cons, if_neg here]

theorem step (ledgered : s.Ledgered handedOut log) (sound : s.Sound) (k : Nat) :
    (s.step k).Ledgered (handedOut ++ s.intake k) ((s.acceptance? k).toList ++ log) := by
  cases found : s.calls[k]? with
  | none =>
    have none : s.acceptance? k = .none := by simp [acceptance?, found]
    rw [step_of_none found, intake_of_none found, none, List.append_nil]
    exact ledgered
  | some c =>
    have kept : ∀ {p : Calls φ τ ω}, p.output.fleet.ledgers = s.output.fleet.ledgers →
        p.Ledgered handedOut log := fun same => ⟨ledgered.within, same.trans ledgered.ledgers⟩
    have idle : (∀ d, c ≠ .dispatching d) → c.acceptance? s.output = none := by
      intro idle
      cases accepted : c.acceptance? s.output with
      | none => rfl
      | some x =>
        obtain ⟨d, same, -⟩ := Call.acceptance?_eq_some accepted
        exact absurd same (idle d)
    rw [step_of_some found, intake_of_some found, acceptance?_of_some found]
    cases (sound.step_call found).effect with
    | takes members share other =>
      rw [idle other]
      exact ledgered.take members
    | @closes i t none there members share other =>
      rw [idle other, none, List.append_nil]
      refine kept ?_
      have same : t.close.2.member.accepted = t.member.accepted :=
        Ledger.accepted_close t.member.transport t.net
      refine List.ext_getElem? fun j => ?_
      unfold Fleet.ledgers
      rw [members, List.getElem?_map, List.getElem?_map]
      exact Fleet.view_put there same j
    | @goes_on d _ g call next step members | @concludes d _ g call next step members =>
      subst call
      have none : (Call.dispatching d).intake s.output = [] := rfl
      have ledgers := step.ledgers_eq
      have left : ((Call.dispatching d).step s.output).2.fleet.ledgers = g.ledgers :=
        congrArg (List.map Member.accepted) members
      rw [none, List.append_nil]
      cases accepted : d.acceptance? s.output.fleet with
      | none =>
        rw [accepted] at ledgers
        have untaken : (Call.dispatching d).acceptance? s.output = .none := by
          simp [Call.acceptance?, accepted]
        rw [untaken]
        exact kept (left.trans ledgers)
      | some i =>
        rw [accepted] at ledgers
        obtain ⟨old, there, put⟩ := ledgers
        have taken : (Call.dispatching d).acceptance? s.output = some (i, d.batch) := by
          simp [Call.acceptance?, accepted]
        rw [taken]
        exact ledgered.receive (a := ⟨k, i, d.batch⟩) there (left.trans put)

theorem run (ledgered : s.Ledgered handedOut log) (sound : s.Sound) (choices : List Nat) :
    (s.run choices).Ledgered (handedOut ++ s.intakes choices) (s.acceptances choices ++ log) := by
  induction choices generalizing s handedOut log with
  | nil =>
    rw [intakes, List.append_nil]
    exact ledgered
  | cons k rest ih =>
    have later := ih (ledgered.step sound k) (sound.step k)
    rw [List.append_assoc, ← List.append_assoc (acceptances rest _)] at later
    exact later

end Ledgered

end Calls

end PointRelay
