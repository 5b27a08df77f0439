import PointRelay.Fleet
import PointRelay.Order

/-!
# Trials

An attempt asks the transport of a member for one write and, when that found the database missing,
for one creation. A dispatch makes attempts one after another: the members that it comes to first
refuse the batch, and the first that does not is the last that is tried.
-/

namespace PointRelay

variable {τ ω : Type}

namespace Focus

@[simp] theorem move_transport (next : Phase) (s : Focus τ ω) :
    (s.move next).member.transport = s.member.transport := by
  unfold move
  split <;> rfl

@[simp] theorem move_endpoint (next : Phase) (s : Focus τ ω) :
    (s.move next).member.endpoint = s.member.endpoint := by
  unfold move
  split <;> rfl

@[simp] theorem move_net (next : Phase) (s : Focus τ ω) : (s.move next).net = s.net := by
  unfold move
  split <;> rfl

@[simp] theorem restore_transport (s : Focus τ ω) :
    s.restore.member.transport = s.member.transport := by
  unfold restore
  split <;> simp

@[simp] theorem restore_endpoint (s : Focus τ ω) :
    s.restore.member.endpoint = s.member.endpoint := by
  unfold restore
  split <;> simp

@[simp] theorem restore_net (s : Focus τ ω) : s.restore.net = s.net := by
  unfold restore
  split <;> simp

@[simp] theorem settle_transport (database : String) (answer : Except ConnectionError Unit)
    (s : Focus τ ω) : (s.settle database answer).member.transport = s.member.transport := by
  cases answer <;> simp [settle, note, count]

@[simp] theorem settle_endpoint (database : String) (answer : Except ConnectionError Unit)
    (s : Focus τ ω) : (s.settle database answer).member.endpoint = s.member.endpoint := by
  cases answer <;> simp [settle, note, count]

@[simp] theorem settle_net (database : String) (answer : Except ConnectionError Unit)
    (s : Focus τ ω) : (s.settle database answer).net = s.net := by
  cases answer <;> simp [settle, note, count]

variable [Transport τ ω]

/-- What a write of a batch does to the transport and the network. -/
def written (b : Batch) (s : Focus τ ω) : Effect τ ω :=
  Transport.write b s.member.transport s.net

/-- What a creation behind a write does to them. -/
def recreated (database : String) (b : Batch) (s : Focus τ ω) : Effect τ ω :=
  Transport.create database (s.written b).transport (s.written b).net

/-- Keep what an operation of the transport left. -/
def carry (e : Effect τ ω) (s : Focus τ ω) : Focus τ ω :=
  { s with member := { s.member with transport := e.transport }, net := e.net }

theorem attempt_of_ok {database : String} {b : Batch} {s : Focus τ ω}
    (taken : (s.written b).answer = .ok ()) :
    s.attempt database b = (.ok (), (s.carry (s.written b)).succeed.restore) := by
  unfold written at taken
  simp [attempt, write, operate, carry, written, taken]

theorem attempt_of_error {database : String} {b : Batch} {s : Focus τ ω} {e : ConnectionError}
    (refused : (s.written b).answer = .error e) :
    s.attempt database b =
      (.error e, if e.failureClass = .schemaMissing
        then (((s.carry (s.written b)).fail e).recover database).2
        else (s.carry (s.written b)).fail e) := by
  unfold written at refused
  simp [attempt, write, operate, carry, written, refused]

theorem attempt_answer (database : String) (b : Batch) (s : Focus τ ω) :
    (s.attempt database b).1 = (s.written b).answer := by
  cases answer : (s.written b).answer with
  | ok => rw [attempt_of_ok answer]
  | error e => rw [attempt_of_error answer]

/-- An attempt that succeeds is one write. -/
theorem attempt_ok {database : String} {b : Batch} {s t : Focus τ ω}
    (taken : s.attempt database b = (.ok (), t)) :
    (s.written b).answer = .ok () ∧ t.member.endpoint = s.member.endpoint ∧
      t.member.transport = (s.written b).transport ∧ t.net = (s.written b).net := by
  have answer : (s.written b).answer = .ok () := by
    rw [← attempt_answer database, taken]
  rw [attempt_of_ok answer] at taken
  obtain ⟨-, rfl⟩ := Prod.mk.inj taken
  refine ⟨answer, ?_, ?_, ?_⟩ <;> simp [succeed, note, count, carry]

/-- An attempt that fails is one write, and one creation when the database was missing. -/
theorem attempt_error {database : String} {b : Batch} {s t : Focus τ ω} {e : ConnectionError}
    (refused : s.attempt database b = (.error e, t)) :
    (s.written b).answer = .error e ∧ t.member.endpoint = s.member.endpoint ∧
      ((e.failureClass ≠ .schemaMissing ∧ t.member.transport = (s.written b).transport ∧
          t.net = (s.written b).net) ∨
        (e.failureClass = .schemaMissing ∧
          t.member.transport = (s.recreated database b).transport ∧
          t.net = (s.recreated database b).net)) := by
  have answer : (s.written b).answer = .error e := by
    rw [← attempt_answer database, refused]
  rw [attempt_of_error answer] at refused
  obtain ⟨-, rfl⟩ := Prod.mk.inj refused
  refine ⟨answer, ?_, ?_⟩
  · split <;> simp [recover, ensure, create, operate, fail, note, count, carry]
  · split
    · rename_i missing
      refine Or.inr ⟨missing, ?_, ?_⟩ <;>
        simp [recover, ensure, create, operate, fail, note, count, carry, recreated]
    · rename_i other
      exact Or.inl ⟨other, rfl, rfl⟩

theorem attempt_endpoint {database : String} {b : Batch} {s t : Focus τ ω}
    {answer : Except ConnectionError Unit} (tried : s.attempt database b = (answer, t)) :
    t.member.endpoint = s.member.endpoint := by
  cases answer with
  | ok => exact (attempt_ok tried).2.1
  | error e => exact (attempt_error tried).2.1

end Focus

namespace Fleet

theorem focus?_eq_some {i : Nat} {f : Fleet τ ω} {s : Focus τ ω} :
    f.focus? i = some s ↔
      f.members[i]? = some s.member ∧ s.net = f.net ∧ s.journal = f.journal := by
  unfold focus?
  constructor
  · intro there
    obtain ⟨m, found, rfl⟩ := Option.map_eq_some_iff.mp there
    exact ⟨found, rfl, rfl⟩
  · rintro ⟨found, net, journal⟩
    obtain ⟨member, _, _⟩ := s
    subst net journal
    simp [found]

theorem exists_focus {i : Nat} {f : Fleet τ ω} (place : i < f.members.length) :
    ∃ s, f.focus? i = some s :=
  ⟨⟨f.members[i], f.net, f.journal⟩, focus?_eq_some.mpr ⟨by simp [place], rfl, rfl⟩⟩

theorem mem_of_focus? {i : Nat} {f : Fleet τ ω} {s : Focus τ ω} (there : f.focus? i = some s) :
    s.member ∈ f.members :=
  List.mem_of_getElem? (focus?_eq_some.mp there).1

@[simp] theorem length_put (i : Nat) (s : Focus τ ω) (f : Fleet τ ω) :
    (f.put i s).members.length = f.members.length := by
  simp [put]

theorem members_put_self {i : Nat} {s : Focus τ ω} {f : Fleet τ ω}
    (place : i < f.members.length) : (f.put i s).members[i]? = some s.member := by
  simp [put, place]

theorem members_put_other {i j : Nat} (s : Focus τ ω) (f : Fleet τ ω) (other : j ≠ i) :
    (f.put i s).members[j]? = f.members[j]? := by
  simp [put, other.symm]

/-- Replacing one item of a list replaces its share of what the items make up, in some order. -/
theorem perm_flatMap_set {α β : Type} (g : α → List β) {xs : List α} {i : Nat} {x : α}
    (found : xs[i]? = some x) (y : α) :
    ∃ others, (xs.flatMap g).Perm (g x ++ others) ∧
      ((xs.set i y).flatMap g).Perm (g y ++ others) := by
  induction xs generalizing i with
  | nil => cases found
  | cons z rest ih =>
    cases i with
    | zero =>
      obtain rfl := Option.some.inj found
      exact ⟨rest.flatMap g, .refl _, .refl _⟩
    | succ i =>
      obtain ⟨others, before, after⟩ := ih found
      have behind : ∀ ys, (g z ++ (ys ++ others)).Perm (ys ++ (g z ++ others)) := by
        intro ys
        rw [← List.append_assoc, ← List.append_assoc]
        exact List.perm_append_comm.append_right others
      refine ⟨g z ++ others, ?_, ?_⟩
      · exact (before.append_left (g z)).trans (behind (g x))
      · exact (after.append_left (g z)).trans (behind (g y))

/-- What an operation on a member keeps of it is kept at every place. -/
theorem view_put {α : Type} {view : Member τ → α} {i : Nat} {f : Fleet τ ω} {s t : Focus τ ω}
    (there : f.focus? i = some s) (kept : view t.member = view s.member) (j : Nat) :
    (f.put i t).members[j]?.map view = f.members[j]?.map view := by
  by_cases same : j = i
  · subst same
    have found := (focus?_eq_some.mp there).1
    have place : j < f.members.length := (List.getElem?_eq_some_iff.mp found).1
    rw [members_put_self place, found, Option.map_some, Option.map_some, kept]
  · rw [members_put_other _ _ same]

variable [Transport τ ω]

/-- The members at some places refuse a batch one after another. -/
inductive Refused (database : String) (b : Batch) :
    List Nat → Fleet τ ω → Fleet τ ω → Prop where
  | nil (f : Fleet τ ω) : Refused database b [] f f
  | cons {i : Nat} {rest : List Nat} {f g : Fleet τ ω} {s t : Focus τ ω} {e : ConnectionError}
      (there : f.focus? i = some s) (refused : s.attempt database b = (.error e, t))
      (later : Refused database b rest (f.put i t) g) : Refused database b (i :: rest) f g

namespace Refused

variable {database : String} {b : Batch} {places : List Nat} {f g : Fleet τ ω}

theorem length_eq (refused : Refused database b places f g) :
    g.members.length = f.members.length := by
  induction refused with
  | nil => rfl
  | cons _ _ _ ih => rw [ih, length_put]

theorem untouched (refused : Refused database b places f g) {j : Nat} (other : j ∉ places) :
    g.members[j]? = f.members[j]? := by
  induction refused with
  | nil => rfl
  | cons _ _ _ ih =>
    obtain ⟨ne, later⟩ := List.ne_and_not_mem_of_not_mem_cons other
    rw [ih later, members_put_other _ _ ne]

/-- What no refusal changes of a member is the same afterwards at every place. -/
theorem view_eq {α : Type} (view : Member τ → α)
    (keeps : ∀ {s t : Focus τ ω} {e}, s.attempt database b = (.error e, t) →
      view t.member = view s.member)
    (refused : Refused database b places f g) (j : Nat) :
    g.members[j]?.map view = f.members[j]?.map view := by
  induction refused with
  | nil => rfl
  | cons there trial _ ih => rw [ih, view_put there (keeps trial)]

/-- A member that refused is as it was until it was tried. -/
theorem refuses (refused : Refused database b places f g) (distinct : places.Nodup) {i : Nat}
    (mem : i ∈ places) :
    ∃ m net e, f.members[i]? = some m ∧
      (Transport.write b m.transport net).answer = .error e := by
  induction refused with
  | nil => cases mem
  | @cons k rest f g s t e there trial later ih =>
    obtain ⟨first, distinct⟩ := List.nodup_cons.mp distinct
    rcases List.mem_cons.mp mem with rfl | mem
    · exact ⟨s.member, s.net, e, (focus?_eq_some.mp there).1, (Focus.attempt_error trial).1⟩
    · have ne : i ≠ k := fun same => first (same ▸ mem)
      obtain ⟨m, net, e, found, answer⟩ := ih distinct mem
      rw [members_put_other _ _ ne] at found
      exact ⟨m, net, e, found, answer⟩

end Refused

/-- How the trial of members one after another ends. -/
inductive Tried (database : String) (b : Batch) (poolSize attempts : Nat) (places : List Nat)
    (f : Fleet τ ω) : Verdict → Fleet τ ω → Prop where
  | delivered {before after : List Nat} {i : Nat} {mid : Fleet τ ω} {s t : Focus τ ω}
      (order : places = before ++ i :: after) (refused : Refused database b before f mid)
      (there : mid.focus? i = some s) (taken : s.attempt database b = (.ok (), t)) :
      Tried database b poolSize attempts places f
        (.delivered s.member.endpoint (attempts + before.length + 1)) (mid.put i t)
  | exhausted {g : Fleet τ ω} (refused : Refused database b places f g) :
      Tried database b poolSize attempts places f
        (.exhausted (attempts + places.length) poolSize) g

/-- One more refusal before the others. -/
theorem Tried.cons {database : String} {b : Batch} {poolSize attempts i : Nat} {rest : List Nat}
    {f g : Fleet τ ω} {s t : Focus τ ω} {e : ConnectionError} {v : Verdict}
    (there : f.focus? i = some s) (refused : s.attempt database b = (.error e, t))
    (later : Tried database b poolSize (attempts + 1) rest (f.put i t) v g) :
    Tried database b poolSize attempts (i :: rest) f v g := by
  cases later with
  | @delivered before after k mid u w order before_refused found taken =>
    have steps : attempts + 1 + before.length + 1 = attempts + (i :: before).length + 1 := by
      simp only [List.length_cons]
      omega
    rw [steps]
    exact .delivered (by rw [order, List.cons_append]) (.cons there refused before_refused)
      found taken
  | exhausted rest_refused =>
    have steps : attempts + 1 + rest.length = attempts + (i :: rest).length := by
      simp only [List.length_cons]
      omega
    rw [steps]
    exact .exhausted (.cons there refused rest_refused)

/-- What no attempt changes of a member is the same afterwards at every place. -/
theorem Tried.view_eq {α : Type} (view : Member τ → α) {database : String} {b : Batch}
    {poolSize attempts : Nat} {places : List Nat} {f g : Fleet τ ω} {v : Verdict}
    (keeps : ∀ {s t : Focus τ ω} {answer}, s.attempt database b = (answer, t) →
      view t.member = view s.member)
    (tried : Tried database b poolSize attempts places f v g) (j : Nat) :
    g.members[j]?.map view = f.members[j]?.map view := by
  cases tried with
  | @delivered before after i mid s t order refused there taken =>
    rw [← refused.view_eq view keeps j]
    exact view_put there (keeps taken) j
  | exhausted refused => exact refused.view_eq view keeps j

/-- What every attempt keeps of a fleet, the trial of members one after another keeps. -/
theorem Tried.keeps {R : Fleet τ ω → Prop} {database : String} {b : Batch}
    {poolSize attempts : Nat} {places : List Nat} {f g : Fleet τ ω} {v : Verdict}
    (attempted : ∀ {f : Fleet τ ω} {i : Nat} {s : Focus τ ω}, f.focus? i = some s → R f →
      R (f.put i (s.attempt database b).2))
    (tried : Tried database b poolSize attempts places f v g) (holds : R f) : R g := by
  have later : ∀ {places : List Nat} {f g : Fleet τ ω},
      Refused database b places f g → R f → R g := by
    intro places f g refused
    induction refused with
    | nil => exact id
    | cons there trial _ ih =>
      intro holds
      have kept := attempted there holds
      rw [trial] at kept
      exact ih kept
  cases tried with
  | delivered order refused there taken =>
    have kept := attempted there (later refused holds)
    rw [taken] at kept
    exact kept
  | exhausted refused => exact later refused holds

theorem Tried.length_eq {database : String} {b : Batch} {poolSize attempts : Nat}
    {places : List Nat} {f g : Fleet τ ω} {v : Verdict}
    (tried : Tried database b poolSize attempts places f v g) :
    g.members.length = f.members.length := by
  cases tried with
  | delivered _ refused _ _ => rw [length_put, refused.length_eq]
  | exhausted refused => exact refused.length_eq

theorem tried_tryAll (database : String) (b : Batch) (poolSize : Nat) (places : List Nat)
    (attempts : Nat) (f : Fleet τ ω) (within : ∀ i ∈ places, i < f.members.length) :
    Tried database b poolSize attempts places f
      (tryAll database b poolSize attempts places f).1
      (tryAll database b poolSize attempts places f).2 := by
  induction places generalizing attempts f with
  | nil => exact .exhausted (.nil f)
  | cons i rest ih =>
    obtain ⟨s, there⟩ := exists_focus (within i List.mem_cons_self)
    rw [tryAll, there]
    rcases trial : s.attempt database b with ⟨e | ⟨⟩, t⟩
    · simp only [trial]
      refine .cons there trial (ih (attempts + 1) (f.put i t) fun j mem => ?_)
      simpa using within j (List.mem_cons_of_mem i mem)
    · simp only [trial]
      exact .delivered (List.nil_append _).symm (.nil f) there trial

/-- The trial of members passes those that refuse. -/
theorem tryAll_append_of_refused {database : String} {b : Batch} {places : List Nat}
    {f g : Fleet τ ω} (poolSize attempts : Nat) (later : List Nat)
    (refused : Refused database b places f g) :
    tryAll database b poolSize attempts (places ++ later) f =
      tryAll database b poolSize (attempts + places.length) later g := by
  induction refused generalizing attempts with
  | nil => rfl
  | @cons i rest f g s t e there trial _ ih =>
    have steps : attempts + 1 + rest.length = attempts + (i :: rest).length := by
      rw [List.length_cons]
      omega
    rw [List.cons_append, tryAll, there]
    simp only [trial, ih, steps]

/-- Members that all refuse are all tried. -/
theorem tryAll_of_refused {database : String} {b : Batch} {places : List Nat} {f g : Fleet τ ω}
    (poolSize attempts : Nat) (refused : Refused database b places f g) :
    tryAll database b poolSize attempts places f =
      (.exhausted (attempts + places.length) poolSize, g) := by
  have passed := tryAll_append_of_refused poolSize attempts [] refused
  rwa [List.append_nil] at passed

omit [Transport τ ω] in
theorem filterMap_range (pool : List Nat) :
    ((List.range pool.length).filterMap fun k => pool[k]?) = pool := by
  induction pool with
  | nil => rfl
  | cons i rest ih =>
    simpa [List.range_succ_eq_map, List.filterMap_map, Function.comp_def] using ih

omit [Transport τ ω] in
/-- An order of the members of a pool has each of its places once. -/
theorem perm_places {pool order : List Nat} (all : order.Perm (List.range pool.length)) :
    (order.filterMap fun k => pool[k]?).Perm pool := by
  simpa only [filterMap_range] using all.filterMap fun k => pool[k]?

/-- A dispatch tries the places of the pool in some order. -/
theorem tried_dispatch (database : String) (b : Batch) {pool order : List Nat} (f : Fleet τ ω)
    (all : order.Perm (List.range pool.length)) (within : ∀ i ∈ pool, i < f.members.length) :
    ∃ places, places.Perm pool ∧
      Tried database b pool.length 0 places f (f.dispatch database b pool order).1
        (f.dispatch database b pool order).2 := by
  have perm := perm_places all
  exact ⟨_, perm, tried_tryAll database b pool.length _ 0 f fun i mem =>
    within i (perm.mem_iff.mp mem)⟩

end Fleet

end PointRelay
