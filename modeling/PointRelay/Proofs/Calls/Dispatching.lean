import PointRelay.Output.Call
import PointRelay.Proofs.Fleet.Ledger
import PointRelay.Proofs.Fleet.Phases

/-!
# Steps of a dispatch

A dispatch that is cut into steps does one thing to one member at a time. What a step can do is said
once here, for a dispatch whose members are in the fleet; so is what every step leaves alone.
-/

namespace PointRelay

/-- The member that a trial is at. -/
def Trial.place? : Trial → Option Nat
  | .next => none
  | .taken i | .healing i | .missing i | .creating i | .answered i _ => some i

/-- A trial is between the two changes of phase of a recovery of a member. -/
def Trial.Recovers (i : Nat) : Trial → Prop
  | .creating j | .answered j _ => j = i
  | .next | .taken _ | .healing _ | .missing _ => False

namespace Dispatch

/-- The members that a dispatch is at or may come to. -/
def places (d : Dispatch) : List Nat := d.trial.place?.toList ++ d.rest

variable {τ ω : Type} [Transport τ ω]

/-- What a step of a dispatch can do to the fleet. -/
inductive Step (d : Dispatch) (f : Fleet τ ω) : Dispatch ⊕ Verdict → Fleet τ ω → Prop where
  | exhausted (trial : d.trial = .next) (last : d.rest = []) :
      Step d f (.inr (.exhausted d.attempts d.poolSize)) f
  | accepted {i : Nat} {rest : List Nat} {s : Focus τ ω} (trial : d.trial = .next)
      (first : d.rest = i :: rest) (there : f.focus? i = some s)
      (taken : (s.written d.batch).answer = .ok ()) :
      Step d f (.inl ⟨d.database, d.batch, d.poolSize, d.attempts + 1, .taken i, rest⟩)
        (f.put i (s.carry (s.written d.batch)).succeed)
  | refused {i : Nat} {rest : List Nat} {s : Focus τ ω} {e : ConnectionError}
      (trial : d.trial = .next) (first : d.rest = i :: rest) (there : f.focus? i = some s)
      (refused : (s.written d.batch).answer = .error e) :
      Step d f (.inl ⟨d.database, d.batch, d.poolSize, d.attempts + 1,
          if e.failureClass = .schemaMissing then .missing i else .next, rest⟩)
        (f.put i ((s.carry (s.written d.batch)).fail e))
  | delivered {i : Nat} {m : Member τ} (trial : d.trial = .taken i)
      (found : f.members[i]? = some m) :
      Step d f (.inr (.delivered m.endpoint d.attempts)) f
  | healing {i : Nat} (trial : d.trial = .taken i) :
      Step d f (.inl { d with trial := .healing i }) f
  | healed {i : Nat} {s : Focus τ ω} (trial : d.trial = .healing i)
      (there : f.focus? i = some s) :
      Step d f (.inr (.delivered s.member.endpoint d.attempts)) (f.put i (s.move .ready))
  | recovering {i : Nat} {s : Focus τ ω} (trial : d.trial = .missing i)
      (there : f.focus? i = some s) :
      Step d f (.inl { d with trial := .creating i }) (f.put i (s.move .recovering))
  | created {i : Nat} {s : Focus τ ω} (trial : d.trial = .creating i)
      (there : f.focus? i = some s) :
      Step d f (.inl { d with trial := .answered i (s.ensure d.database).1 })
        (f.put i (s.ensure d.database).2)
  | settled {i : Nat} {answer : Except ConnectionError Unit} {s : Focus τ ω}
      (trial : d.trial = .answered i answer) (there : f.focus? i = some s) :
      Step d f (.inl { d with trial := .next }) (f.put i (s.settle d.database answer))

theorem step_of_within {d : Dispatch} {f : Fleet τ ω}
    (within : ∀ i ∈ d.places, i < f.members.length) : Step d f (d.step f).1 (d.step f).2 := by
  obtain ⟨database, b, poolSize, attempts, trial, rest⟩ := d
  have reached : ∀ i, trial.place? = some i → ∃ s, f.focus? i = some s := by
    intro i place
    refine Fleet.exists_focus (within i ?_)
    simp [places, place]
  cases trial with
  | next =>
    cases rest with
    | nil => exact .exhausted rfl rfl
    | cons i rest =>
      obtain ⟨s, there⟩ := Fleet.exists_focus (within i (by simp [places]))
      have written : s.write b = ((s.written b).answer, s.carry (s.written b)) := rfl
      cases answer : (s.written b).answer with
      | ok =>
        simp only [step, there, written, answer]
        exact .accepted rfl rfl there answer
      | error e =>
        simp only [step, there, written, answer]
        exact .refused rfl rfl there answer
  | taken i =>
    obtain ⟨s, there⟩ := reached i rfl
    have found := (Fleet.focus?_eq_some.mp there).1
    by_cases degraded : s.member.phase = .degraded
    · simp only [step, found, degraded, if_true]
      exact .healing rfl
    · simp only [step, found, degraded, if_false]
      exact .delivered rfl found
  | healing i =>
    obtain ⟨s, there⟩ := reached i rfl
    simp only [step, there]
    exact .healed rfl there
  | missing i =>
    obtain ⟨s, there⟩ := reached i rfl
    simp only [step, Fleet.modify, there]
    exact .recovering rfl there
  | creating i =>
    obtain ⟨s, there⟩ := reached i rfl
    simp only [step, Fleet.on, there]
    exact .created rfl there
  | answered i answer =>
    obtain ⟨s, there⟩ := reached i rfl
    simp only [step, Fleet.modify, there]
    exact .settled rfl there

/-- The member that the next step hands the batch to, if that takes it. -/
def acceptance? (d : Dispatch) (f : Fleet τ ω) : Option Nat :=
  match d.trial, d.rest with
  | .next, i :: _ =>
    (f.focus? i).bind fun s => if (s.written d.batch).answer.isOk then some i else none
  | _, _ => none

omit [Transport τ ω] in
/-- How many members have taken the batch. -/
def taken (d : Dispatch) : Nat :=
  match d.trial with
  | .taken _ | .healing _ => 1
  | .next | .missing _ | .creating _ | .answered _ _ => 0

end Dispatch

/-- How many members have taken a batch with a verdict. -/
def Verdict.taken : Verdict → Nat
  | .delivered _ _ => 1
  | .exhausted _ _ => 0

namespace Dispatch.Step

section
variable {τ ω : Type} [Transport τ ω] {d : Dispatch} {f g : Fleet τ ω} {next : Dispatch ⊕ Verdict}

theorem length_eq (step : Step d f next g) : g.members.length = f.members.length := by
  cases step with
  | exhausted | delivered | healing => rfl
  | accepted | refused | healed | recovering | created | settled => exact Fleet.length_put ..

/-- A dispatch goes on with the same batch, to no other members. -/
theorem goes_on {d' : Dispatch} (step : Step d f (.inl d') g) :
    d'.batch = d.batch ∧ ∀ i ∈ d'.places, i ∈ d.places := by
  cases step with
  | accepted trial first there taken =>
    refine ⟨rfl, fun i mem => ?_⟩
    simpa [places, trial, first, Trial.place?] using mem
  | @refused i rest s e trial first there refused =>
    refine ⟨rfl, fun j mem => ?_⟩
    by_cases missing : e.failureClass = .schemaMissing
    · simpa [places, trial, first, Trial.place?, missing] using mem
    · have later : j ∈ rest := by simpa [places, Trial.place?, missing] using mem
      simp [places, trial, first, Trial.place?, later]
  | healing trial | recovering trial | created trial =>
    refine ⟨rfl, fun i mem => ?_⟩
    simpa [places, trial, Trial.place?] using mem
  | settled trial =>
    refine ⟨rfl, fun i mem => ?_⟩
    exact List.mem_append_right _ mem

/-- What writes and creations keep of a transport, and endpoints, are the same afterwards. -/
theorem view_eq {α : Type} (view : String → τ → α)
    (write : ∀ b e t net, view e (Transport.write b t net).transport = view e t)
    (create : ∀ database e t net, view e (Transport.create database t net).transport = view e t)
    (step : Step d f next g) (j : Nat) :
    g.members[j]?.map (fun m => view m.endpoint m.transport) =
      f.members[j]?.map fun m => view m.endpoint m.transport := by
  cases step with
  | exhausted | delivered | healing => rfl
  | accepted trial first there taken => exact Fleet.view_put there (write _ _ _ _) j
  | refused trial first there refused => exact Fleet.view_put there (write _ _ _ _) j
  | healed trial there => exact Fleet.view_put there (by simp) j
  | recovering trial there => exact Fleet.view_put there (by simp) j
  | created trial there => exact Fleet.view_put there (create _ _ _ _) j
  | settled trial there => exact Fleet.view_put there (by simp) j

/-- A dispatch has given its batch to one member more when a member takes it, and else to as many as
before. -/
theorem taken_eq (step : Step d f next g) :
    next.elim Dispatch.taken Verdict.taken = d.taken + (d.acceptance? f).toList.length := by
  cases step with
  | exhausted trial last => simp [Dispatch.taken, acceptance?, trial, last, Verdict.taken]
  | accepted trial first there taken =>
    simp [Dispatch.taken, acceptance?, trial, first, there, taken, Except.isOk, Except.toBool]
  | @refused i rest s e trial first there refused =>
    by_cases missing : e.failureClass = .schemaMissing <;>
      simp [Dispatch.taken, acceptance?, trial, first, there, refused, Except.isOk, Except.toBool,
        missing]
  | delivered trial | healed trial => simp [Dispatch.taken, acceptance?, trial, Verdict.taken]
  | healing trial | recovering trial | created trial | settled trial =>
    simp [Dispatch.taken, acceptance?, trial]

omit [Transport τ ω] in
/-- A member is recovering behind an operation on some member: that one, or another as before. -/
theorem recovering_put {i j : Nat} {s t : Focus τ ω} (there : f.focus? i = some s)
    (found : (f.put i t).members[j]?.map Member.phase = some .recovering) :
    (j = i ∧ t.member.phase = .recovering) ∨
      (j ≠ i ∧ f.members[j]?.map Member.phase = some .recovering) := by
  by_cases same : j = i
  · subst same
    have place := (List.getElem?_eq_some_iff.mp (Fleet.focus?_eq_some.mp there).1).1
    rw [Fleet.members_put_self place] at found
    exact Or.inl ⟨rfl, Option.some.inj found⟩
  · rw [Fleet.members_put_other _ _ same] at found
    exact Or.inr ⟨same, found⟩

/-- A member is recovering when a dispatch recovers it from now on, or when it was before and the
dispatch was not the one to recover it. -/
theorem recovering_of_step (step : Step d f next g) {j : Nat}
    (found : g.members[j]?.map Member.phase = some .recovering) :
    (∃ d', next = .inl d' ∧ d'.trial.Recovers j) ∨
      (f.members[j]?.map Member.phase = some .recovering ∧ ¬ d.trial.Recovers j) := by
  have before : ∀ {i : Nat} {s : Focus τ ω}, f.focus? i = some s →
      s.member.phase = .recovering → f.members[i]?.map Member.phase = some .recovering := by
    intro i s there phase
    rw [(Fleet.focus?_eq_some.mp there).1, Option.map_some, phase]
  cases step with
  | exhausted trial | delivered trial | healing trial =>
    exact Or.inr ⟨found, by simp [trial, Trial.Recovers]⟩
  | accepted trial first there taken =>
    refine Or.inr ⟨?_, by simp [trial, Trial.Recovers]⟩
    rcases recovering_put there found with ⟨rfl, phase⟩ | ⟨-, found⟩
    · exact before there phase
    · exact found
  | refused trial first there refused =>
    refine Or.inr ⟨?_, by simp [trial, Trial.Recovers]⟩
    rcases recovering_put there found with ⟨rfl, phase⟩ | ⟨-, found⟩
    · exact before there phase
    · exact found
  | @healed i s trial there =>
    refine Or.inr ⟨?_, by simp [trial, Trial.Recovers]⟩
    rcases recovering_put there found with ⟨rfl, phase⟩ | ⟨-, found⟩
    · rw [Focus.move_phase] at phase
      split at phase <;> cases phase
    · exact found
  | @recovering i s trial there =>
    rcases recovering_put there found with ⟨rfl, -⟩ | ⟨-, found⟩
    · exact Or.inl ⟨_, rfl, rfl⟩
    · exact Or.inr ⟨found, by simp [trial, Trial.Recovers]⟩
  | @created i s trial there =>
    rcases recovering_put there found with ⟨rfl, -⟩ | ⟨other, found⟩
    · exact Or.inl ⟨_, rfl, rfl⟩
    · exact Or.inr ⟨found, by simpa [trial, Trial.Recovers] using Ne.symm other⟩
  | @settled i answer s trial there =>
    rcases recovering_put there found with ⟨rfl, phase⟩ | ⟨other, found⟩
    · rw [Focus.settle_phase] at phase
      split at phase
      · cases phase
      · split at phase <;> cases phase
    · exact Or.inr ⟨found, by simpa [trial, Trial.Recovers] using Ne.symm other⟩

end

/-- A step puts the batch into the ledger of the member that takes it, and touches no other. -/
theorem ledgers_eq {τ ω : Type} [Ledger τ ω] {d : Dispatch} {f g : Fleet τ ω}
    {next : Dispatch ⊕ Verdict} (step : Step d f next g) :
    match d.acceptance? f with
    | none => g.ledgers = f.ledgers
    | some i => ∃ old, f.ledgers[i]? = some old ∧ g.ledgers = f.ledgers.set i (d.batch :: old) := by
  have kept : ∀ {i : Nat} {s t : Focus τ ω}, f.focus? i = some s →
      t.member.accepted = s.member.accepted → (f.put i t).ledgers = f.ledgers := by
    intro i s t there same
    refine List.ext_getElem? fun j => ?_
    simp only [Fleet.ledgers, List.getElem?_map]
    exact Fleet.view_put there same j
  cases step with
  | exhausted trial last => simp [acceptance?, trial, last]
  | @accepted i rest s trial first there taken =>
    have place : f.members[i]? = some s.member := (Fleet.focus?_eq_some.mp there).1
    have grown := Ledger.accepted_of_ok d.batch s.member.transport s.net taken
    simp only [acceptance?, trial, first, there, taken, Option.bind_some, Except.isOk,
      Except.toBool, if_true]
    refine ⟨s.member.accepted, by simp [Fleet.ledgers, place], ?_⟩
    rw [Fleet.ledgers_put]
    exact congrArg (f.ledgers.set i) grown
  | @refused i rest s e trial first there refused =>
    have same := Ledger.accepted_of_error d.batch s.member.transport s.net e refused
    simp only [acceptance?, trial, first, there, refused, Option.bind_some, Except.isOk,
      Except.toBool]
    exact kept there same
  | delivered trial | healing trial => simp [acceptance?, trial]
  | healed trial there =>
    simp only [acceptance?, trial]
    exact kept there (by simp [Member.accepted])
  | recovering trial there =>
    simp only [acceptance?, trial]
    exact kept there (by simp [Member.accepted])
  | created trial there =>
    simp only [acceptance?, trial]
    exact kept there (Ledger.accepted_create _ _ _)
  | settled trial there =>
    simp only [acceptance?, trial]
    exact kept there (by simp [Member.accepted])

end Dispatch.Step

end PointRelay
