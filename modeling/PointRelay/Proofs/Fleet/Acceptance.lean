import PointRelay.Proofs.Fleet.Logging
import PointRelay.Proofs.Fleet.Shuffling
import PointRelay.Proofs.Fleet.Story

/-!
# The first member that takes a batch

The members of a pool answer to the write of a batch one after another. A dispatch is decided by
their answers: it asks them in order up to the first that takes the batch, asks each that refuses
for the creation of the database if that was missing, and leaves the others as they are.
-/

namespace PointRelay

variable {τ ω : Type}

/-! ## What a refusal leaves -/

/-- The event of a batch that was refused. -/
def Event.failure (endpoint : String) (e : ConnectionError) : Event :=
  ⟨"Write to endpoint failed",
    [("endpoint", endpoint), ("class", e.failureClass.text), ("error", e.message)]⟩

/-- The events of batches that were refused, oldest first. -/
def Journal.failures (j : Journal) : List Event :=
  j.events.filter fun e => e.message = "Write to endpoint failed"

theorem Journal.failures_append (late early : Journal) :
    failures (late ++ early) = failures early ++ failures late := by
  simp [failures, events]

/-- Only the notes on batches tell of failures. -/
theorem Journal.failures_trials (j : Journal) : failures (trials j) = failures j := by
  induction j with
  | nil => rfl
  | cons n rest ih =>
    have grown := failures_append [n] rest
    cases trial : n.isTrial with
    | true =>
      have kept : trials (n :: rest) = [n] ++ trials rest := List.filter_cons_of_pos trial
      rw [kept, failures_append, ih, ← grown]
      rfl
    | false =>
      have dropped : trials (n :: rest) = trials rest :=
        List.filter_cons_of_neg (Bool.eq_false_iff.mp trial)
      have silent : failures [n] = [] := by
        cases n <;> first | rfl | cases trial
      rw [dropped, ih]
      rw [silent, List.append_nil] at grown
      exact grown.symm

/-- A member before and after it refused a batch. -/
structure Member.Refused (e : ConnectionError) (m n : Member τ) : Prop where
  endpoint : n.endpoint = m.endpoint
  writes : n.counters.writes = m.counters.writes
  failures : n.counters.failures = m.counters.failures + 1
  recoveries : n.counters.recoveries =
    m.counters.recoveries + if e.failureClass = .schemaMissing then 1 else 0

/-- A member before and after it took a batch. -/
structure Member.Accepted (m n : Member τ) : Prop where
  endpoint : n.endpoint = m.endpoint
  counters : n.counters = { m.counters with writes := m.counters.writes + 1 }

namespace Focus

variable [Transport τ ω] {database : String} {b : Batch} {s : Focus τ ω} {e : ConnectionError}

theorem refused_attempt (refused : (s.written b).answer = .error e) :
    s.member.Refused e (s.attempt database b).2.member := by
  have endpoint : (s.attempt database b).2.member.endpoint = s.member.endpoint :=
    attempt_endpoint rfl
  have trial : s.attempt database b = _ := attempt_of_error refused
  by_cases missing : e.failureClass = .schemaMissing
  · rw [if_pos missing] at trial
    have counters := recover_counters database ((s.carry (s.written b)).fail e)
    refine ⟨endpoint, ?_, ?_, ?_⟩ <;> rw [trial, counters]
    · rfl
    · rfl
    · rw [if_pos missing]
      rfl
  · rw [if_neg missing] at trial
    refine ⟨endpoint, ?_, ?_, ?_⟩ <;> rw [trial]
    · rfl
    · rfl
    · rw [if_neg missing]
      rfl

theorem accepted_attempt (taken : (s.written b).answer = .ok ()) :
    s.member.Accepted (s.attempt database b).2.member := by
  refine ⟨attempt_endpoint rfl, ?_⟩
  rw [attempt_of_ok taken, restore_counters]
  rfl

omit [Transport τ ω] in
theorem failures_of_notes {told : Journal} {s t : Focus τ ω} (notes : s.Notes told t) :
    t.journal.failures = s.journal.failures ++ told.failures := by
  obtain ⟨new, journal, rfl, -⟩ := notes
  rw [journal, Journal.failures_append, Journal.failures_trials]

/-- A refusal is told of in one event, and a repair in none of its kind. -/
theorem failures_refused (refused : (s.written b).answer = .error e) :
    (s.attempt database b).2.journal.failures =
      s.journal.failures ++ [.failure s.member.endpoint e] := by
  have failed : s.Notes [.refused s.member.endpoint e] ((s.carry (s.written b)).fail e) :=
    notes_note (n := .refused s.member.endpoint e) rfl s
  rw [attempt_of_error refused]
  split
  · have repaired := failures_of_notes
      (failed.trans (notes_recover database ((s.carry (s.written b)).fail e)))
    cases answer : (((s.carry (s.written b)).fail e).recover database).1 <;>
      rw [answer] at repaired <;> exact repaired
  · exact failures_of_notes failed

theorem failures_accepted (taken : (s.written b).answer = .ok ()) :
    (s.attempt database b).2.journal.failures = s.journal.failures := by
  have counted : s.Notes [.accepted s.member.endpoint] (s.carry (s.written b)).succeed :=
    notes_note (n := .accepted s.member.endpoint) rfl s
  rw [attempt_of_ok taken, failures_of_notes (counted.trans (notes_restore _))]
  exact List.append_nil _

end Focus

/-! ## Answers in turn -/

/-- What a member that refuses a batch is asked: to write it and, when that found the database
missing, to create that. -/
def Errand.refused (database : String) (b : Batch) (i : Nat) (e : ConnectionError) :
    List (Nat × Errand) :=
  (i, .write b) :: if e.failureClass = .schemaMissing then [(i, .create database)] else []

namespace Fleet

variable [Transport τ ω]

/-- The answer of the member at a place to the write of a batch. -/
def reply (b : Batch) (i : Nat) (f : Fleet τ ω) : Option (Except ConnectionError Unit) :=
  (f.focus? i).map fun s => (s.written b).answer

/-- The answers of the members at some places when each is asked behind the attempts on those before
it. -/
def replies (database : String) (b : Batch) :
    List Nat → Fleet τ ω → List (Except ConnectionError Unit)
  | [], _ => []
  | i :: rest, f =>
    (f.reply b i).toList ++ replies database b rest (f.on i (Focus.attempt database b)).2

/-- Members that refuse a batch one after another, each with its error. -/
inductive Visited (database : String) (b : Batch) :
    List (Nat × ConnectionError) → Fleet τ ω → Fleet τ ω → Prop where
  | nil (f : Fleet τ ω) : Visited database b [] f f
  | cons {i : Nat} {e : ConnectionError} {rest : List (Nat × ConnectionError)} {f g : Fleet τ ω}
      {s : Focus τ ω} (there : f.focus? i = some s) (refused : (s.written b).answer = .error e)
      (later : Visited database b rest (f.put i (s.attempt database b).2) g) :
      Visited database b ((i, e) :: rest) f g

variable {database : String} {b : Batch} {f g : Fleet τ ω} {visits : List (Nat × ConnectionError)}

theorem replies_cons {i : Nat} {rest : List Nat} {s : Focus τ ω} (there : f.focus? i = some s) :
    f.replies database b (i :: rest) =
      (s.written b).answer :: (f.put i (s.attempt database b).2).replies database b rest := by
  simp [replies, reply, on, there]

namespace Visited

theorem refused (visited : Visited database b visits f g) :
    Refused database b (visits.map Prod.fst) f g := by
  induction visited with
  | nil f => exact .nil f
  | @cons i e rest f g s there refused later ih =>
    refine .cons there (e := e) ?_ ih
    rw [← refused, ← Focus.attempt_answer database]

/-- Members whose answers in turn are errors are visited, and the others answer behind them. -/
theorem of_replies {places : List Nat} {errors : List ConnectionError}
    {others : List (Except ConnectionError Unit)} (within : ∀ i ∈ places, i < f.members.length)
    (replies : f.replies database b places = errors.map .error ++ others) :
    ∃ visits later g, places = visits.map Prod.fst ++ later ∧ visits.map Prod.snd = errors ∧
      Visited database b visits f g ∧ g.replies database b later = others := by
  induction errors generalizing places f with
  | nil => exact ⟨[], places, f, rfl, rfl, .nil f, replies⟩
  | cons e errors ih =>
    cases places with
    | nil => cases replies
    | cons i rest =>
      obtain ⟨s, there⟩ := exists_focus (within i List.mem_cons_self)
      rw [replies_cons there, List.map_cons, List.cons_append] at replies
      obtain ⟨refused, behind⟩ := List.cons.inj replies
      obtain ⟨visits, later, g, order, errs, visited, answers⟩ := ih (fun j mem => by
        simpa using within j (List.mem_cons_of_mem i mem)) behind
      refine ⟨(i, e) :: visits, later, g, ?_, ?_, .cons there refused visited, answers⟩
      · rw [order, List.map_cons, List.cons_append]
      · rw [List.map_cons, errs]

/-- Each member that is visited counts one refusal. -/
theorem members (visited : Visited database b visits f g) (distinct : (visits.map Prod.fst).Nodup)
    {i : Nat} {e : ConnectionError} (mem : (i, e) ∈ visits) :
    ∃ m n, f.members[i]? = some m ∧ g.members[i]? = some n ∧ m.Refused e n := by
  induction visited with
  | nil => cases mem
  | @cons k e' rest f g s there refused later ih =>
    obtain ⟨found, -, -⟩ := focus?_eq_some.mp there
    have place : k < f.members.length := (List.getElem?_eq_some_iff.mp found).1
    rw [List.map_cons, List.nodup_cons] at distinct
    rcases List.mem_cons.mp mem with same | mem
    · obtain ⟨rfl, rfl⟩ := Prod.mk.inj same
      refine ⟨s.member, (s.attempt database b).2.member, found, ?_, Focus.refused_attempt refused⟩
      rw [later.refused.untouched distinct.1, members_put_self place]
    · obtain ⟨m, n, before, after, left⟩ := ih distinct.2 mem
      have ne : i ≠ k := fun same => distinct.1 (List.mem_map.mpr ⟨_, mem, same⟩)
      rw [members_put_other _ _ ne] at before
      exact ⟨m, n, before, after, left⟩

/-- One failure is told of for each member that is visited, in order. -/
theorem failures (visited : Visited database b visits f g)
    (distinct : (visits.map Prod.fst).Nodup) :
    g.journal.failures = f.journal.failures ++ visits.filterMap fun (i, e) =>
      f.members[i]?.map fun m => .failure m.endpoint e := by
  induction visited with
  | nil => exact (List.append_nil _).symm
  | @cons k e rest f g s there refused later ih =>
    obtain ⟨found, -, journal⟩ := focus?_eq_some.mp there
    rw [List.map_cons, List.nodup_cons] at distinct
    have same : (rest.filterMap fun (i, e) =>
        (f.put k (s.attempt database b).2).members[i]?.map fun m => Event.failure m.endpoint e) =
        rest.filterMap fun (i, e) => f.members[i]?.map fun m => .failure m.endpoint e := by
      refine List.filterMap_congr fun (i, e) mem => ?_
      have ne : i ≠ k := fun same => distinct.1 (List.mem_map.mpr ⟨_, mem, same⟩)
      simp only [members_put_other _ _ ne]
    rw [ih distinct.2, same, List.filterMap_cons]
    simp only [found, Option.map_some]
    show (s.attempt database b).2.journal.failures ++ _ = _
    rw [Focus.failures_refused refused, journal, List.append_assoc]
    rfl

end Visited

end Fleet

/-! ## What is asked -/

namespace Focus

variable [Transport τ ω] {database : String} {b : Batch} {e : ConnectionError}
  {s : Focus (Marked τ) (Logged ω)}

theorem mark_attempt (database : String) (b : Batch) (s : Focus (Marked τ) (Logged ω)) :
    (s.attempt database b).2.member.transport.mark = s.member.transport.mark := by
  rcases trial : s.attempt database b with ⟨e | ⟨⟩, t⟩
  · obtain ⟨-, -, ⟨-, transport, -⟩ | ⟨-, transport, -⟩⟩ := attempt_error trial <;>
      rw [transport] <;> rfl
  · rw [(attempt_ok trial).2.2.1]
    rfl

theorem asked_refused (refused : (s.written b).answer = .error e) :
    (s.attempt database b).2.net.asked =
      s.net.asked ++ Errand.refused database b s.member.transport.mark e := by
  have trial : s.attempt database b = (.error e, (s.attempt database b).2) := by
    rw [← refused, ← attempt_answer database]
  have asked : (s.written b).net.asked = s.net.asked ++ [(s.member.transport.mark, .write b)] :=
    List.reverse_cons
  have again : (s.recreated database b).net.asked =
      (s.written b).net.asked ++ [(s.member.transport.mark, .create database)] :=
    List.reverse_cons
  obtain ⟨-, -, ⟨other, -, net⟩ | ⟨missing, -, net⟩⟩ := attempt_error trial
  · rw [net, asked, Errand.refused, if_neg other]
  · rw [net, again, asked, Errand.refused, if_pos missing, List.append_assoc]
    rfl

theorem asked_accepted (taken : (s.written b).answer = .ok ()) :
    (s.attempt database b).2.net.asked =
      s.net.asked ++ [(s.member.transport.mark, .write b)] := by
  have trial : s.attempt database b = (.ok (), (s.attempt database b).2) := by
    rw [← taken, ← attempt_answer database]
  rw [(attempt_ok trial).2.2.2]
  exact List.reverse_cons

end Focus

namespace Fleet

variable [Transport τ ω] {database : String} {b : Batch}

theorem Placed.put {i : Nat} {f : Fleet (Marked τ) (Logged ω)} {s : Focus (Marked τ) (Logged ω)}
    (placed : f.Placed) (there : f.focus? i = some s) :
    (f.put i (s.attempt database b).2).Placed :=
  Everywhere.put placed ((Focus.mark_attempt database b s).trans (Everywhere.focus placed there))

/-- The members that are visited are asked in order, and nothing else is asked. -/
theorem Visited.asked {f g : Fleet (Marked τ) (Logged ω)} {visits : List (Nat × ConnectionError)}
    (visited : Visited database b visits f g) (placed : f.Placed) :
    g.Placed ∧ g.net.asked =
      f.net.asked ++ visits.flatMap fun (i, e) => Errand.refused database b i e := by
  induction visited with
  | nil => exact ⟨placed, (List.append_nil _).symm⟩
  | @cons i e rest f g s there refused later ih =>
    obtain ⟨-, net, -⟩ := focus?_eq_some.mp there
    have mark : s.member.transport.mark = i := Everywhere.focus placed there
    obtain ⟨placed, asked⟩ := ih (placed.put there)
    refine ⟨placed, ?_⟩
    rw [asked, List.flatMap_cons]
    show (s.attempt database b).2.net.asked ++ _ = _
    rw [Focus.asked_refused refused, mark, net, List.append_assoc]

end Fleet

namespace Projection

variable {σ ψ : Type} [Transport σ ψ] [Transport τ ω] {f : σ → τ} {g : ψ → ω} {database : String}
  {b : Batch} (seen : Projection f g)
include seen

theorem replies (places : List Nat) (h : Fleet σ ψ) :
    (h.map f g).replies database b places = h.replies database b places := by
  induction places generalizing h with
  | nil => rfl
  | cons i rest ih =>
    cases there : h.focus? i with
    | none => simpa [Fleet.replies, Fleet.reply, Fleet.on, Fleet.map_focus?, there] using ih h
    | some s =>
      have also : (h.map f g).focus? i = some (s.map f g) := by
        rw [Fleet.map_focus?, there, Option.map_some]
      rw [Fleet.replies_cons there, Fleet.replies_cons also, seen.written, seen.attempt,
        ← Fleet.map_put, ih]
      rfl

theorem visited {h k : Fleet σ ψ} {visits : List (Nat × ConnectionError)}
    (visited : Fleet.Visited database b visits h k) :
    Fleet.Visited database b visits (h.map f g) (k.map f g) := by
  induction visited with
  | nil h => exact .nil _
  | @cons i e rest h k s there refused later ih =>
    have also : (h.map f g).focus? i = some (s.map f g) := by
      rw [Fleet.map_focus?, there, Option.map_some]
    have answer : ((s.map f g).written b).answer = .error e := by
      rw [seen.written]
      exact refused
    rw [Fleet.map_put] at ih
    refine .cons also answer ?_
    rw [seen.attempt]
    exact ih

end Projection

namespace Fleet

variable [Transport τ ω] {database : String} {b : Batch}

/-! ## The dispatch -/

/-- A fleet before and after members refused a batch, and perhaps one took it. -/
structure Passed (visits : List (Nat × ConnectionError)) (taker : Option Nat) (f g : Fleet τ ω) :
    Prop where
  refused : ∀ i e, (i, e) ∈ visits →
    ∃ m n, f.members[i]? = some m ∧ g.members[i]? = some n ∧ m.Refused e n
  taken : ∀ i ∈ taker, ∃ m n, f.members[i]? = some m ∧ g.members[i]? = some n ∧ m.Accepted n
  untouched : ∀ i, i ∉ visits.map Prod.fst → i ∉ taker → g.members[i]? = f.members[i]?
  failures : g.journal.failures = f.journal.failures ++ visits.filterMap fun (i, e) =>
    f.members[i]?.map fun m => .failure m.endpoint e

/-- What members that refuse a batch and perhaps one that takes it are asked. -/
def errands (database : String) (b : Batch) (visits : List (Nat × ConnectionError))
    (taker : Option Nat) : List (Nat × Errand) :=
  (visits.flatMap fun (i, e) => Errand.refused database b i e) ++
    taker.toList.map fun i => (i, .write b)

section
variable {f g mid : Fleet τ ω} {visits : List (Nat × ConnectionError)} {i : Nat} {s : Focus τ ω}

theorem Visited.passed (visited : Visited database b visits f g)
    (distinct : (visits.map Prod.fst).Nodup) : Passed visits none f g where
  refused _ _ mem := visited.members distinct mem
  taken _ mem := nomatch mem
  untouched _ other _ := visited.refused.untouched other
  failures := visited.failures distinct

/-- A dispatch that passed the members that refuse ends with one that takes the batch. -/
theorem Visited.tryAll_accepted (visited : Visited database b visits f mid)
    (there : mid.focus? i = some s) (taken : (s.written b).answer = .ok ())
    (poolSize attempts : Nat) (later : List Nat) :
    f.tryAll database b poolSize attempts (visits.map Prod.fst ++ i :: later) =
      (.delivered s.member.endpoint (attempts + visits.length + 1),
        mid.put i (s.attempt database b).2) := by
  have trial : s.attempt database b = (.ok (), (s.attempt database b).2) := by
    rw [← taken, ← Focus.attempt_answer database]
  rw [tryAll_append_of_refused poolSize attempts _ visited.refused, List.length_map, tryAll, there]
  simp only
  rw [trial]

theorem Visited.delivered (visited : Visited database b visits f mid)
    (distinct : (visits.map Prod.fst).Nodup) (other : i ∉ visits.map Prod.fst)
    (there : mid.focus? i = some s) (taken : (s.written b).answer = .ok ()) :
    Passed visits (some i) f (mid.put i (s.attempt database b).2) where
  refused := by
    intro j e mem
    obtain ⟨m, n, before, after, left⟩ := visited.members distinct mem
    have ne : j ≠ i := fun same => other (List.mem_map.mpr ⟨_, mem, same⟩)
    exact ⟨m, n, before, by rw [members_put_other _ _ ne, after], left⟩
  taken := by
    intro j mem
    obtain rfl := Option.mem_some_iff.mp mem
    obtain ⟨found, -, -⟩ := focus?_eq_some.mp there
    have place : i < mid.members.length := (List.getElem?_eq_some_iff.mp found).1
    refine ⟨s.member, (s.attempt database b).2.member, ?_, members_put_self place,
      Focus.accepted_attempt taken⟩
    rw [← visited.refused.untouched other, found]
  untouched := by
    intro j out ne
    rw [members_put_other _ _ fun same => ne (Option.mem_some_iff.mpr same.symm),
      visited.refused.untouched out]
  failures := by
    obtain ⟨-, -, journal⟩ := focus?_eq_some.mp there
    show (s.attempt database b).2.journal.failures = _
    rw [Focus.failures_accepted taken, journal, visited.failures distinct]

end

/-- The log of a dispatch that no member took, and the fleet behind it. -/
theorem Visited.watched {f : Fleet τ ω} {k : Fleet (Marked τ) (Logged ω)}
    {visits : List (Nat × ConnectionError)} (visited : Visited database b visits f.marked k)
    (distinct : (visits.map Prod.fst).Nodup) :
    Passed visits none f (k.map Marked.transport Logged.net) ∧
      k.net.asked = errands database b visits none := by
  have looked := Marked.projection.visited visited
  rw [map_marked] at looked
  refine ⟨looked.passed distinct, ?_⟩
  rw [(visited.asked f.placed_marked).2]
  exact (List.append_nil _).symm

/-- The log of a dispatch that a member took, and the fleet behind it. -/
theorem Visited.watched_accepted {f : Fleet τ ω} {mid : Fleet (Marked τ) (Logged ω)}
    {visits : List (Nat × ConnectionError)} {i : Nat} {s : Focus (Marked τ) (Logged ω)}
    (visited : Visited database b visits f.marked mid) (distinct : (visits.map Prod.fst).Nodup)
    (other : i ∉ visits.map Prod.fst) (there : mid.focus? i = some s)
    (taken : (s.written b).answer = .ok ()) :
    f.members[i]? = some (s.member.map Marked.transport) ∧
      Passed visits (some i) f
        ((mid.put i (s.attempt database b).2).map Marked.transport Logged.net) ∧
      (mid.put i (s.attempt database b).2).net.asked = errands database b visits (some i) := by
  have looked := Marked.projection.visited visited
  have also : (mid.map Marked.transport Logged.net).focus? i =
      some (s.map Marked.transport Logged.net) := by rw [map_focus?, there, Option.map_some]
  have answer : ((s.map Marked.transport Logged.net).written b).answer = .ok () := by
    rw [Marked.projection.written]
    exact taken
  obtain ⟨placed, asked⟩ := visited.asked f.placed_marked
  obtain ⟨-, net, -⟩ := focus?_eq_some.mp there
  have mark : s.member.transport.mark = i := Everywhere.focus placed there
  have passed := looked.delivered distinct other also answer
  rw [map_marked] at looked passed
  rw [Marked.projection.attempt, ← map_put] at passed
  refine ⟨?_, passed, ?_⟩
  · rw [← looked.refused.untouched other]
    exact (focus?_eq_some.mp also).1
  · show (s.attempt database b).2.net.asked = _
    rw [Focus.asked_accepted taken, net, asked, mark]
    rfl

/-- A dispatch is decided by the answers of the members in turn. It ends with the first that takes
the batch: those before it refused and counted that, were asked for one write, and for one creation
when the database was missing, before the next was asked, and each refusal is told of once, in
order; those behind it are neither asked nor changed. When none takes the batch all are asked. -/
theorem dispatch_ends_at_first_acceptance (database : String) (b : Batch) {pool order : List Nat}
    {f : Fleet τ ω} (all : order.Perm (List.range pool.length)) (distinct : pool.Nodup)
    (within : ∀ i ∈ pool, i < f.members.length) :
    let places := order.filterMap fun k => pool[k]?
    let done := f.dispatch database b pool order
    let watched := f.marked.dispatch database b pool order
    places.Perm pool ∧
    done = (watched.1, watched.2.map Marked.transport Logged.net) ∧
    (∀ errors others, f.replies database b places = errors.map .error ++ .ok () :: others →
      ∃ visits i later m, places = visits.map Prod.fst ++ i :: later ∧
        visits.map Prod.snd = errors ∧ f.members[i]? = some m ∧
        done.1 = .delivered m.endpoint (errors.length + 1) ∧ Passed visits (some i) f done.2 ∧
        watched.2.net.asked = errands database b visits (some i)) ∧
    (∀ errors, f.replies database b places = errors.map .error →
      ∃ visits, places = visits.map Prod.fst ∧ visits.map Prod.snd = errors ∧
        done.1 = .exhausted pool.length pool.length ∧ Passed visits none f done.2 ∧
        watched.2.net.asked = errands database b visits none) := by
  intro places done watched
  have perm : places.Perm pool := perm_places all
  have once : places.Nodup := perm.nodup_iff.mpr distinct
  have length : f.marked.members.length = f.members.length := List.length_mapIdx
  have inside : ∀ i ∈ places, i < f.marked.members.length := fun i mem =>
    length ▸ within i (perm.mem_iff.mp mem)
  have same : done = (watched.1, watched.2.map Marked.transport Logged.net) := by
    have looked := Marked.projection.dispatch database b pool order f.marked
    rwa [map_marked] at looked
  have answers : f.marked.replies database b places = f.replies database b places := by
    rw [← Marked.projection.replies, map_marked]
  refine ⟨perm, same, ?_, ?_⟩
  · intro errors others replies
    obtain ⟨visits, rest, mid, order, errs, visited, behind⟩ :=
      Visited.of_replies inside (answers.trans replies)
    cases rest with
    | nil => cases behind
    | cons i later =>
      have part : i ∈ places := by simp [order]
      obtain ⟨s, there⟩ := exists_focus (f := mid) (visited.refused.length_eq ▸ inside i part)
      rw [replies_cons there] at behind
      have taken : (s.written b).answer = .ok () := (List.cons.inj behind).1
      rw [order] at once
      obtain ⟨first, -, apart⟩ := List.nodup_append.mp once
      have other : i ∉ visits.map Prod.fst := fun mem => apart i mem i List.mem_cons_self rfl
      obtain ⟨found, passed, asked⟩ := visited.watched_accepted first other there taken
      have ended : watched = (.delivered s.member.endpoint (0 + visits.length + 1),
          mid.put i (s.attempt database b).2) := by
        have passed := visited.tryAll_accepted there taken pool.length 0 later
        rwa [← order] at passed
      refine ⟨visits, i, later, _, order, errs, found, ?_, ?_, ?_⟩
      · rw [same, ended, ← errs, List.length_map, Nat.zero_add]
        rfl
      · rw [same, ended]
        exact passed
      · rw [ended]
        exact asked
  · intro errors replies
    obtain ⟨visits, rest, left, order, errs, visited, behind⟩ :=
      Visited.of_replies inside (by rw [answers, replies, List.append_nil])
    cases rest with
    | cons i later =>
      have part : i ∈ places := by simp [order]
      obtain ⟨s, there⟩ := exists_focus (f := left) (visited.refused.length_eq ▸ inside i part)
      rw [replies_cons there] at behind
      cases behind
    | nil =>
      rw [List.append_nil] at order
      obtain ⟨passed, asked⟩ := visited.watched (order ▸ once)
      have count : 0 + visits.length = pool.length := by
        rw [Nat.zero_add, ← perm.length_eq, order, List.length_map]
      have ended : watched = (.exhausted pool.length pool.length, left) := by
        have tried := tryAll_of_refused pool.length 0 visited.refused
        rwa [List.length_map, ← order, count] at tried
      refine ⟨visits, order, errs, ?_, ?_, ?_⟩
      · rw [same, ended]
      · rw [same, ended]
        exact passed
      · rw [ended]
        exact asked

/-- A member whose first write times out, one without its database, and two that take batches, of
which one is degraded. -/
def mixed : Fleet Scripted Unit :=
  ⟨[(Member.ready { Scripted.healthy "a" with script := [.timeout] }).1,
    (Member.ready (Scripted.missingDatabase "b")).1,
    { (Member.ready (Scripted.healthy "c")).1 with phase := .degraded },
    (Member.ready (Scripted.healthy "d")).1], (), []⟩

theorem mixed_dispatch_ends_at_first_acceptance :
    [1, 0, 2, 3].Perm (List.range 4) ∧ [0, 1, 2, 3].Nodup ∧
    (∀ i ∈ [0, 1, 2, 3], i < mixed.members.length) ∧
    ∃ visits i m, visits.map Prod.snd = [.schemaMissing "b" "db", .timeout "a" (.seconds 5)] ∧
      mixed.members[i]? = some m ∧
      (mixed.dispatch "db" ⟨⟨"db", "", ""⟩, []⟩ [0, 1, 2, 3] [1, 0, 2, 3]).1 =
        .delivered m.endpoint 3 ∧
      Passed visits (some i) mixed
        (mixed.dispatch "db" ⟨⟨"db", "", ""⟩, []⟩ [0, 1, 2, 3] [1, 0, 2, 3]).2 := by
  have all : [1, 0, 2, 3].Perm (List.range [0, 1, 2, 3].length) := by decide
  refine ⟨all, by decide, by decide, ?_⟩
  obtain ⟨-, -, accepted, -⟩ := dispatch_ends_at_first_acceptance (f := mixed) "db"
    ⟨⟨"db", "", ""⟩, []⟩ all (by decide) (by decide)
  obtain ⟨visits, i, -, m, -, errors, found, verdict, passed, -⟩ :=
    accepted [.schemaMissing "b" "db", .timeout "a" (.seconds 5)] [.ok ()] rfl
  exact ⟨visits, i, m, errors, found, verdict, passed⟩

end Fleet

/-! ## Members that share nothing -/

namespace Fleet

variable [Secluded τ ω] {database : String} {b : Batch} {pool : List Nat} {f : Fleet τ ω}

/-- A member answers as it would have before another was tried. -/
theorem reply_attempt {i j : Nat} {s : Focus τ ω} (unshared : f.Unshared pool) (first : i ∈ pool)
    (second : j ∈ pool) (ne : i ≠ j) (there : f.focus? i = some s) :
    (f.put i (s.attempt database b).2).reply b j = f.reply b j := by
  cases also : f.focus? j with
  | none =>
    have gone : (f.put i (s.attempt database b).2).focus? j = none := by
      unfold focus? at also ⊢
      rw [members_put_other _ _ ne.symm]
      simpa using also
    simp [reply, also, gone]
  | some u =>
    obtain ⟨t, behind, trial⟩ := unhindered_attempt database b unshared first second ne there also
    have answer := trial.answer
    rw [Focus.attempt_answer, Focus.attempt_answer] at answer
    simp [reply, also, behind, answer]

/-- Members that share nothing answer in turn as each would answer at the start. -/
theorem replies_of_unshared {places : List Nat} (unshared : f.Unshared pool)
    (part : ∀ i ∈ places, i ∈ pool) (distinct : places.Nodup) :
    f.replies database b places = places.filterMap fun i => f.reply b i := by
  induction places generalizing f with
  | nil => rfl
  | cons i rest ih =>
    obtain ⟨other, distinct⟩ := List.nodup_cons.mp distinct
    have behind : ∀ j ∈ rest, j ∈ pool := fun j mem => part j (List.mem_cons_of_mem i mem)
    cases there : f.focus? i with
    | none => simpa [replies, reply, on, there] using ih unshared behind distinct
    | some s =>
      have first := part i List.mem_cons_self
      rw [replies_cons there, ih (unshared.attempt database b first there) behind distinct,
        List.filterMap_cons]
      have kept : (rest.filterMap fun j => (f.put i (s.attempt database b).2).reply b j) =
          rest.filterMap fun j => f.reply b j :=
        List.filterMap_congr fun j mem => reply_attempt unshared first (behind j mem)
          (fun same => other (same ▸ mem)) there
      rw [kept]
      simp [reply, there]

end Fleet

end PointRelay
