import PointRelay.Proofs.Calls.Dispatching
import PointRelay.Proofs.Output.Run

/-!
# Steps of calls

What a step of a call can do to the output is said once here, for a call whose members are in the
fleet. Calls take steps in any order; what holds whatever the order is proved step by step.
-/

namespace PointRelay

namespace Call

/-- The members that a call has to take in or to close. No other call and no pool has them. -/
def held : Call → List Nat
  | .installing pool => pool
  | .replacing rest _ | .closing rest _ => rest
  | .connect | .write _ | .preparing _ | .dispatching _ | .close | .done _ => []

/-- The members that a call writes to, or may come to write to. -/
def tries : Call → List Nat
  | .dispatching d => d.places
  | .connect | .installing _ | .replacing _ _ | .write _ | .preparing _ | .close | .closing _ _
  | .done _ => []

/-- A call is between the two changes of phase of a recovery of a member. -/
def Recovers (i : Nat) : Call → Prop
  | .dispatching d => d.trial.Recovers i
  | .connect | .installing _ | .replacing _ _ | .write _ | .preparing _ | .close | .closing _ _
  | .done _ => False

variable {φ τ ω : Type} [Transport τ ω] [Factory φ τ ω]

/-- What a step of a call can do to the output. -/
inductive Step (o : Output φ τ ω) : Call → Call → Output φ τ ω → Prop where
  | refused {e : OutputError} (failed : o.build.1 = .error e) :
      Step o .connect (.done (.connected (.error e))) o.build.2
  | built (built : o.build.1 = .ok o.newPlaces) :
    Step o .connect (.installing o.newPlaces) o.build.2
  | installed (pool : List Nat) :
      Step o (.installing pool) (.replacing o.pool [])
        { o.note (.poolSize pool.length) with pool, closed := false }
  | replaced {i : Nat} {rest : List Nat} {s : Focus τ ω} (before after : List ConnectionError)
      (there : o.fleet.focus? i = some s) :
      Step o (.replacing (i :: rest) before) (.replacing rest after)
        { o with fleet := o.fleet.put i (s.close.2.told s.close.1) }
  | connected (failures : List ConnectionError) :
      Step o (.replacing [] failures) (.done (.connected (.ok ()))) (o.noteReplaced failures)
  | unencoded (records : List Record) (refusal : Refusal) :
      Step o (.write records) (.done (.written (.error (.encoding refusal)))) o
  | nothing (records : List Record) :
      Step o (.write records) (.done (.written (.ok ⟨none, 0, 0⟩))) o
  | waits {records : List Record} {b : Batch} (encoded : Batch.encode o.settings records = .ok b) :
      Step o (.write records) (.preparing b) (o.note (.encoded b.size))
  | begun {records : List Record} {b : Batch} {rest : List Nat} {orders : List (List Nat)}
      (encoded : Batch.encode o.settings records = .ok b) (order : rest ⊆ o.pool) :
      Step o (.write records)
        (.dispatching ⟨o.settings.database, b, o.pool.length, 0, .next, rest⟩)
        { o.note (.encoded b.size) with orders }
  | exhausted (b : Batch) :
      Step o (.preparing b) (.done (.written (.error (.poolExhausted 0 0))))
        (o.prepare.note (.batchFailed 0 (.poolExhausted 0 0)))
  | prepared {b : Batch} {rest : List Nat} {orders : List (List Nat)}
      (order : rest ⊆ o.prepare.pool) :
      Step o (.preparing b)
        (.dispatching ⟨o.prepare.settings.database, b, o.prepare.pool.length, 0, .next, rest⟩)
        { o.prepare with orders }
  | dispatched {d d' : Dispatch} {g : Fleet τ ω} (step : d.Step o.fleet (.inl d') g) :
      Step o (.dispatching d) (.dispatching d') { o with fleet := g }
  | concluded {d : Dispatch} {v : Verdict} {g : Fleet τ ω} (step : d.Step o.fleet (.inr v) g) :
      Step o (.dispatching d)
        (.done (.written ({ o with fleet := g }.conclude d.batch.size v).1))
        ({ o with fleet := g }.conclude d.batch.size v).2
  | shut :
      Step o .close (.closing o.pool [])
        { o.note (.poolSize 0) with pool := [], closed := true }
  | released {i : Nat} {rest : List Nat} {s : Focus τ ω} (before after : List ConnectionError)
      (there : o.fleet.focus? i = some s) :
      Step o (.closing (i :: rest) before) (.closing rest after)
        { o with fleet := o.fleet.put i (s.close.2.told s.close.1) }
  | closed (failures : List ConnectionError) :
      Step o (.closing [] failures) (.done (.closed (Output.closing failures))) o
  | stays (answer : Answer) : Step o (.done answer) (.done answer) o

omit [Factory φ τ ω] in
theorem release_of_focus {i : Nat} {f : Fleet τ ω} {s : Focus τ ω} (failures : List ConnectionError)
    (there : f.focus? i = some s) :
    release i failures f =
      (failures ++ (failure? s.close.1).toList, f.put i (s.close.2.told s.close.1)) := by
  unfold release
  rw [there]
  rcases asked : s.close with ⟨e | ⟨⟩, t⟩
  · simp only [asked, failure?, Option.toList_some]
    rfl
  · simp [asked, failure?, Focus.told]

omit [Transport τ ω] [Factory φ τ ω] in
/-- A dispatch begins with members of the pool, if there are any. -/
theorem begin_cases (b : Batch) (o : Output φ τ ω) :
    (o.pool = [] ∧ begin b o = (.done (.written (.error (.poolExhausted 0 0))),
        o.note (.batchFailed 0 (.poolExhausted 0 0)))) ∨
      ∃ rest orders, rest ⊆ o.pool ∧ begin b o =
        (.dispatching ⟨o.settings.database, b, o.pool.length, 0, .next, rest⟩,
          { o with orders }) := by
  unfold begin
  by_cases empty : o.pool = []
  · refine Or.inl ⟨empty, ?_⟩
    rw [if_pos empty]
    rfl
  · refine Or.inr ⟨_, _, ?_, by rw [if_neg empty]⟩
    intro i mem
    obtain ⟨k, -, found⟩ := List.mem_filterMap.mp mem
    exact List.mem_of_getElem? found

theorem step_of_within {c : Call} {o : Output φ τ ω}
    (within : ∀ i ∈ c.held ++ c.tries, i < o.fleet.members.length) :
    Step o c (c.step o).1 (c.step o).2 := by
  cases c with
  | connect =>
    rcases o.build_cases with ⟨e, failed, -⟩ | built
    · have step : Call.step .connect o = (.done (.connected (.error e)), o.build.2) := by
        unfold Call.step
        rcases same : o.build with ⟨answer, p⟩
        rw [same] at failed
        simp only at failed
        rw [failed]
      rw [step]
      exact .refused failed
    · have step : Call.step .connect o = (.installing o.newPlaces, o.build.2) := by
        unfold Call.step
        rcases same : o.build with ⟨answer, p⟩
        rw [same] at built
        simp only at built
        rw [built]
      rw [step]
      exact .built built
  | installing pool => exact .installed pool
  | replacing rest failures =>
    cases rest with
    | nil =>
      have step : Call.step (.replacing [] failures) o =
          (.done (.connected (.ok ())), o.noteReplaced failures) := by
        cases failures <;> rfl
      rw [step]
      exact .connected failures
    | cons i rest =>
      obtain ⟨s, there⟩ := Fleet.exists_focus (within i List.mem_cons_self)
      simp only [Call.step, release_of_focus failures there]
      exact .replaced failures _ there
  | write records =>
    cases encoded : Batch.encode o.settings records with
    | error refusal =>
      simp only [Call.step, encoded]
      exact .unencoded records refusal
    | ok b =>
      by_cases nothing : b.isEmpty = true
      · simp only [Call.step, encoded, nothing, if_true]
        exact .nothing records
      · simp only [Call.step, encoded, nothing]
        by_cases empty : o.pool = []
        · have waiting : (o.note (.encoded b.size)).pool = [] := empty
          simp only [waiting, if_true]
          exact .waits encoded
        · have ready : ¬ (o.note (.encoded b.size)).pool = [] := empty
          simp only [ready, if_false]
          rcases begin_cases b (o.note (.encoded b.size)) with
            ⟨gone, -⟩ | ⟨rest, orders, order, begun⟩
          · exact absurd gone ready
          · simp only [begun]
            exact .begun encoded order
  | preparing b =>
    rcases begin_cases b o.prepare with ⟨-, gone⟩ | ⟨rest, orders, order, begun⟩
    · simp only [Call.step, gone]
      exact .exhausted b
    · simp only [Call.step, begun]
      exact .prepared order
  | dispatching d =>
    have step := Dispatch.step_of_within (d := d) within
    rcases went : d.step o.fleet with ⟨d' | v, g⟩
    · rw [went] at step
      simp only [Call.step, went]
      exact .dispatched step
    · rw [went] at step
      simp only [Call.step, went]
      exact .concluded step
  | close => exact .shut
  | closing rest failures =>
    cases rest with
    | nil => exact .closed failures
    | cons i rest =>
      obtain ⟨s, there⟩ := Fleet.exists_focus (within i List.mem_cons_self)
      simp only [Call.step, release_of_focus failures there]
      exact .released failures _ there
  | done answer => exact .stays answer

end Call

namespace Output

variable {φ τ ω : Type} [Factory φ τ ω]

/-- Seeing to a pool builds one or leaves all as it is. -/
theorem prepare_cases (o : Output φ τ ω) :
    (o.pool = [] ∧ o.closed = false ∧ ∃ journal, o.prepare = { o with
      factory := (Factory.build o.factory o.fleet.net).factory
      fleet := ⟨o.fleet.members ++ o.handout, (Factory.build o.factory o.fleet.net).net, journal⟩
      pool := o.newPlaces }) ∨
    (¬ (o.pool = [] ∧ o.closed = false) ∧ o.prepare = o) := by
  by_cases empty : o.pool = [] ∧ o.closed = false
  · exact Or.inl ⟨empty.1, empty.2, prepare_of_empty empty.1 empty.2⟩
  · refine Or.inr ⟨empty, prepare_of_ready ?_⟩
    by_cases gone : o.pool = []
    · exact Or.inr (Bool.eq_true_of_not_eq_false fun opened => empty ⟨gone, opened⟩)
    · exact Or.inl gone

end Output

namespace Call

variable {φ τ ω : Type} [Factory φ τ ω]

/-- The members that the next step of a call has built. -/
def intake (c : Call) (o : Output φ τ ω) : List (Member τ) :=
  match c with
  | .connect => o.handout
  | .preparing _ => if o.pool = [] ∧ o.closed = false then o.handout else []
  | .installing _ | .replacing _ _ | .write _ | .dispatching _ | .close | .closing _ _
  | .done _ => []

/-- The places at which they are taken in. -/
def newPlaces (c : Call) (o : Output φ τ ω) : List Nat :=
  List.range' o.fleet.members.length (c.intake o).length

theorem mem_newPlaces {c : Call} {o : Output φ τ ω} {i : Nat} :
    i ∈ c.newPlaces o ↔ o.fleet.members.length ≤ i ∧
      i < o.fleet.members.length + (c.intake o).length := by
  simp [newPlaces, List.mem_range'_1]

/-- After a pool was seen to, the new members stand behind the others, and the pool has them when
it was empty before. -/
theorem prepare_eq (b : Batch) (o : Output φ τ ω) :
    o.prepare.fleet.members = o.fleet.members ++ (Call.preparing b).intake o ∧
      o.prepare.pool = o.pool ++ (Call.preparing b).newPlaces o ∧
      o.prepare.settings = o.settings ∧ o.prepare.closed = o.closed := by
  rcases o.prepare_cases with ⟨empty, opened, journal, same⟩ | ⟨ready, same⟩
  · have built : (Call.preparing b).intake o = o.handout := if_pos ⟨empty, opened⟩
    rw [same, newPlaces, built, empty]
    exact ⟨rfl, rfl, rfl, rfl⟩
  · have none : (Call.preparing b).intake o = [] := if_neg ready
    rw [same, newPlaces, none]
    simp

variable [Transport τ ω] {o p : Output φ τ ω} {c c' : Call}

/-- What a step does to the connections and to those who have them: new ones are taken in, if any,
or one that was given up is closed, or a dispatch makes a step. -/
inductive Effect (o : Output φ τ ω) (c c' : Call) (p : Output φ τ ω) : Prop where
  | takes (members : p.fleet.members = o.fleet.members ++ c.intake o)
      (share : (p.pool ++ c'.held).Perm (o.pool ++ c.held ++ c.newPlaces o))
      (idle : ∀ d, c ≠ .dispatching d)
  | closes {i : Nat} {s : Focus τ ω} (none : c.intake o = []) (there : o.fleet.focus? i = some s)
      (members : p.fleet.members = (o.fleet.put i s.close.2).members)
      (share : (o.pool ++ c.held).Perm (i :: (p.pool ++ c'.held)))
      (idle : ∀ d, c ≠ .dispatching d)
  | goes_on {d d' : Dispatch} {g : Fleet τ ω} (call : c = .dispatching d)
      (next : c' = .dispatching d') (step : d.Step o.fleet (.inl d') g)
      (members : p.fleet.members = g.members) (pool : p.pool = o.pool)
  | concludes {d : Dispatch} {v : Verdict} {g : Fleet τ ω} (call : c = .dispatching d)
      (next : c' = .done (.written (p.conclude d.batch.size v).1))
      (step : d.Step o.fleet (.inr v) g)
      (members : p.fleet.members = g.members) (pool : p.pool = o.pool)

namespace Step

theorem effect (step : Step o c c' p) : Effect o c c' p := by
  have quiet : ∀ {c c' : Call} {p : Output φ τ ω}, p.fleet.members = o.fleet.members →
      (p.pool ++ c'.held).Perm (o.pool ++ c.held) → c.intake o = [] →
      (∀ d, c ≠ .dispatching d) → Effect o c c' p := by
    intro c c' p members share none idle
    refine .takes (by rw [members, none, List.append_nil]) ?_ idle
    rw [newPlaces, none, List.length_nil, List.range'_zero, List.append_nil]
    exact share
  cases step with
  | refused failed =>
    refine quiet ?_ ?_ (Output.handout_of_build failed) nofun
    · rw [Output.build_eq, Output.handout_of_build failed, List.append_nil]
    · rw [Output.build_eq]
      exact .refl _
  | built built =>
    refine .takes (by rw [Output.build_eq]; rfl) ?_ nofun
    rw [Output.build_eq]
    exact .of_eq (by simp [held]; rfl)
  | installed pool => exact quiet rfl List.perm_append_comm rfl nofun
  | @replaced i rest s before after there =>
    refine .closes rfl there ?_ List.perm_middle nofun
    exact congrArg (o.fleet.members.set i) (Focus.told_member _ _)
  | connected failures =>
    obtain ⟨journal, same⟩ := Output.noteReplaced_eq failures o
    rw [same]
    exact quiet rfl (.refl _) rfl nofun
  | unencoded | nothing | waits | begun | closed | stays => exact quiet rfl (.refl _) rfl nofun
  | exhausted b =>
    obtain ⟨members, pool, -⟩ := prepare_eq b o
    have share : o.prepare.pool ++ [] = o.pool ++ [] ++ (Call.preparing b).newPlaces o := by
      simpa using pool
    exact .takes members (.of_eq share) nofun
  | @prepared b rest orders order =>
    obtain ⟨members, pool, -⟩ := prepare_eq b o
    have share : o.prepare.pool ++ [] = o.pool ++ [] ++ (Call.preparing b).newPlaces o := by
      simpa using pool
    exact .takes members (.of_eq share) nofun
  | dispatched step => exact .goes_on rfl rfl step rfl rfl
  | @concluded d v g step =>
    have pool : ({ o with fleet := g }.conclude d.batch.size v).2.pool = o.pool := by
      cases v <;> rfl
    refine .concludes rfl ?_ step ?_ pool
    · cases v <;> rfl
    · cases v <;> rfl
  | shut => exact quiet rfl (.of_eq (by simp [held])) rfl nofun
  | @released i rest s before after there =>
    refine .closes rfl there ?_ List.perm_middle nofun
    exact congrArg (o.fleet.members.set i) (Focus.told_member _ _)

theorem settings_eq (step : Step o c c' p) : p.settings = o.settings := by
  cases step with
  | refused | built => rw [Output.build_eq]
  | installed | replaced | unencoded | nothing | waits | begun | dispatched | shut | released
  | closed | stays => rfl
  | connected failures =>
    obtain ⟨journal, same⟩ := Output.noteReplaced_eq failures o
    rw [same]
  | exhausted b => exact (prepare_eq b o).2.2.1
  | @prepared b rest orders order => exact (prepare_eq b o).2.2.1
  | concluded step =>
    obtain ⟨n, same⟩ := Output.conclude_snd _ _ _
    rw [same]
    rfl

/-- New members stand behind all others. -/
theorem length_eq (step : Step o c c' p) :
    p.fleet.members.length = o.fleet.members.length + (c.intake o).length := by
  cases step.effect with
  | takes members => rw [members, List.length_append]
  | closes none there members => rw [members, Fleet.length_put, none, List.length_nil, Nat.add_zero]
  | goes_on call next step members | concludes call next step members =>
    rw [members, step.length_eq, call]
    rfl

theorem named_share (step : Step o c c' p) {i : Nat} (mem : i ∈ p.pool ++ c'.held) :
    i ∈ o.pool ++ c.held ∨ i ∈ c.newPlaces o := by
  cases step.effect with
  | takes members share => exact List.mem_append.mp (share.mem_iff.mp mem)
  | closes none there members share =>
    exact Or.inl (share.mem_iff.mpr (List.mem_cons_of_mem _ mem))
  | goes_on call next step members pool | concludes call next step members pool =>
    rw [next, pool, held, List.append_nil] at mem
    exact Or.inl (List.mem_append_left _ mem)

theorem named_tries (step : Step o c c' p) {i : Nat} (mem : i ∈ c'.tries) :
    i ∈ o.pool ∨ i ∈ c.tries ∨ i ∈ c.newPlaces o := by
  cases step with
  | refused | built | installed | replaced | connected | unencoded | nothing | waits | exhausted
  | concluded | shut | released | closed | stays => cases mem
  | begun encoded order => exact Or.inl (order mem)
  | @prepared b rest orders order =>
    have pool := order mem
    rw [(prepare_eq b o).2.1] at pool
    rcases List.mem_append.mp pool with old | new
    · exact Or.inl old
    · exact Or.inr (Or.inr new)
  | dispatched step => exact Or.inr (Or.inl (step.goes_on.2 i mem))

/-- Who is named after a step is a member of the fleet if all were who were named before. -/
theorem within (step : Step o c c' p) (pool : ∀ i ∈ o.pool, i < o.fleet.members.length)
    (call : ∀ i ∈ c.held ++ c.tries, i < o.fleet.members.length) :
    ∀ i ∈ p.pool ++ (c'.held ++ c'.tries), i < p.fleet.members.length := by
  intro i mem
  have old : i ∈ o.pool ∨ i ∈ c.held ++ c.tries → i < p.fleet.members.length := by
    rw [step.length_eq]
    rintro (mem | mem)
    · exact Nat.lt_add_right _ (pool i mem)
    · exact Nat.lt_add_right _ (call i mem)
  have new : i ∈ c.newPlaces o → i < p.fleet.members.length := by
    rw [step.length_eq]
    exact fun mem => (mem_newPlaces.mp mem).2
  rw [← List.append_assoc] at mem
  rcases List.mem_append.mp mem with shared | tried
  · rcases step.named_share shared with before | fresh
    · rcases List.mem_append.mp before with before | before
      · exact old (Or.inl before)
      · exact old (Or.inr (List.mem_append_left _ before))
    · exact new fresh
  · rcases step.named_tries tried with before | before | fresh
    · exact old (Or.inl before)
    · exact old (Or.inr (List.mem_append_right _ before))
    · exact new fresh

end Step

end Call

namespace Calls

variable {φ τ ω : Type}

/-- All who are named by the pool or by a call are members of the fleet. -/
structure Sound (s : Calls φ τ ω) : Prop where
  pool : ∀ i ∈ s.output.pool, i < s.output.fleet.members.length
  calls : ∀ c ∈ s.calls, ∀ i ∈ c.held ++ c.tries, i < s.output.fleet.members.length

variable [Transport τ ω] [Factory φ τ ω]

theorem step_of_none {k : Nat} {s : Calls φ τ ω} (none : s.calls[k]? = none) : s.step k = s := by
  simp [step, none]

theorem step_of_some {k : Nat} {s : Calls φ τ ω} {c : Call} (found : s.calls[k]? = some c) :
    s.step k = ⟨(c.step s.output).2, s.calls.set k (c.step s.output).1⟩ := by
  simp [step, found]

theorem Sound.step_call {s : Calls φ τ ω} (sound : s.Sound) {k : Nat} {c : Call}
    (found : s.calls[k]? = some c) :
    Call.Step s.output c (c.step s.output).1 (c.step s.output).2 :=
  Call.step_of_within (sound.calls c (List.mem_of_getElem? found))

theorem Sound.step {s : Calls φ τ ω} (sound : s.Sound) (k : Nat) : (s.step k).Sound := by
  cases found : s.calls[k]? with
  | none =>
    rw [step_of_none found]
    exact sound
  | some c =>
    have step := sound.step_call found
    have within := step.within sound.pool (sound.calls c (List.mem_of_getElem? found))
    rw [step_of_some found]
    refine ⟨fun i mem => within i (List.mem_append_left _ mem), fun c' there i mem => ?_⟩
    rcases List.mem_or_eq_of_mem_set there with old | rfl
    · show i < (c.step s.output).2.fleet.members.length
      rw [step.length_eq]
      exact Nat.lt_add_right _ (sound.calls c' old i mem)
    · exact within i (List.mem_append_right _ mem)

/-- What every step of a call keeps holds after every run. -/
theorem Sound.keeps {R : Calls φ τ ω → Prop}
    (kept : ∀ {s : Calls φ τ ω} {k : Nat} {c : Call}, s.Sound → s.calls[k]? = some c → R s →
      R (s.step k)) {s : Calls φ τ ω} (sound : s.Sound) (holds : R s) (choices : List Nat) :
    R (s.run choices) := by
  induction choices generalizing s with
  | nil => exact holds
  | cons k rest ih =>
    refine ih (sound.step k) ?_
    show R (s.step k)
    cases found : s.calls[k]? with
    | none =>
      rw [step_of_none found]
      exact holds
    | some c => exact kept sound found holds

/-- The connections that the next step of a call has built. -/
def intake (k : Nat) (s : Calls φ τ ω) : List (Member τ) :=
  match s.calls[k]? with
  | none => []
  | some c => c.intake s.output

omit [Transport τ ω] in
theorem intake_of_some {k : Nat} {s : Calls φ τ ω} {c : Call} (found : s.calls[k]? = some c) :
    s.intake k = c.intake s.output := by
  simp [intake, found]

omit [Transport τ ω] in
theorem intake_of_none {k : Nat} {s : Calls φ τ ω} (none : s.calls[k]? = none) :
    s.intake k = [] := by
  simp [intake, none]

/-- The connections that calls have built in a run, in order. -/
def intakes : List Nat → Calls φ τ ω → List (Member τ)
  | [], _ => []
  | k :: rest, s => s.intake k ++ intakes rest (s.step k)

end Calls

end PointRelay
