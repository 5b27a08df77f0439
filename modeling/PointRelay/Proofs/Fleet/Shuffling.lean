import PointRelay.Proofs.Fleet.Dispatches
import PointRelay.Proofs.Fleet.Seclusion
import PointRelay.Proofs.Journal.Totals

/-!
# Orders decide who, not whether

When the transports of a pool share nothing, an attempt on one member is the same before and after
an attempt on another. So members that all refuse a batch in one order refuse it in every order and
are left in the same state, and a batch that is delivered in one order is delivered in all of them.
-/

namespace PointRelay

variable {τ ω : Type} [Secluded τ ω]

namespace Fleet

/-- The members of a pool are apart from one another. -/
def Unshared (pool : List Nat) (f : Fleet τ ω) : Prop :=
  ∀ i ∈ pool, ∀ j ∈ pool, i ≠ j → ∀ m n, f.members[i]? = some m → f.members[j]? = some n →
    Secluded.Apart m.transport n.transport

/-- Two fleets with the same members, on networks that look alike to those of a pool, with the same
notes in some order. -/
structure Alike (pool : List Nat) (f g : Fleet τ ω) : Prop where
  members : f.members = g.members
  parts : ∀ i ∈ pool, ∀ m, f.members[i]? = some m →
    Secluded.part m.transport f.net = Secluded.part m.transport g.net
  notes : f.journal.Perm g.journal

variable {pool : List Nat} {f g h : Fleet τ ω} {database : String} {b : Batch}

theorem Alike.refl (pool : List Nat) (f : Fleet τ ω) : Alike pool f f :=
  ⟨rfl, fun _ _ _ _ => rfl, .refl _⟩

theorem Alike.symm (alike : Alike pool f g) : Alike pool g f :=
  ⟨alike.members.symm, fun i mem m found =>
    (alike.parts i mem m (alike.members ▸ found)).symm, alike.notes.symm⟩

theorem Alike.trans (first : Alike pool f g) (second : Alike pool g h) : Alike pool f h :=
  ⟨first.members.trans second.members, fun i mem m found =>
    (first.parts i mem m found).trans (second.parts i mem m (first.members ▸ found)),
    first.notes.trans second.notes⟩

theorem Unshared.attempt (database : String) (b : Batch) {i : Nat} {s : Focus τ ω}
    (unshared : f.Unshared pool) (mem : i ∈ pool) (there : f.focus? i = some s) :
    (f.put i (s.attempt database b).2).Unshared pool := by
  obtain ⟨found, net, -⟩ := focus?_eq_some.mp there
  have place : i < f.members.length := (List.getElem?_eq_some_iff.mp found).1
  -- The member that was tried is still apart from all others, on either side.
  have apart : ∀ j ∈ pool, j ≠ i → ∀ n, f.members[j]? = some n →
      Secluded.Apart (s.attempt database b).2.member.transport n.transport := by
    intro j among ne n at_
    exact (Focus.attempt_apart database b (unshared i mem j among ne.symm s.member n found at_)).2
  intro j first k second ne m n at_j at_k
  by_cases j_is : j = i
  · subst j_is
    rw [members_put_self place] at at_j
    obtain rfl := Option.some.inj at_j
    rw [members_put_other _ _ ne.symm] at at_k
    exact apart k second ne.symm n at_k
  · rw [members_put_other _ _ j_is] at at_j
    by_cases k_is : k = i
    · subst k_is
      rw [members_put_self place] at at_k
      obtain rfl := Option.some.inj at_k
      exact Secluded.apart_symm (apart j first ne m at_j)
    · rw [members_put_other _ _ k_is] at at_k
      exact unshared j first k second ne m n at_j at_k

/-- What a member leaves after an attempt is what it leaves on a fleet that is alike. -/
theorem Alike.same {i : Nat} {s : Focus τ ω} (alike : Alike pool f g) (mem : i ∈ pool)
    (there : f.focus? i = some s) :
    ∃ t, g.focus? i = some t ∧ Focus.Same f.journal g.journal s t := by
  obtain ⟨found, net, journal⟩ := focus?_eq_some.mp there
  refine ⟨⟨s.member, g.net, g.journal⟩, ?_, rfl, ?_, [], journal, rfl⟩
  · exact focus?_eq_some.mpr ⟨alike.members ▸ found, rfl, rfl⟩
  · exact net ▸ alike.parts i mem s.member found

/-- The same attempt on two fleets that are alike leaves them alike. -/
theorem Alike.attempt (database : String) (b : Batch) {i : Nat} {s t : Focus τ ω}
    (alike : Alike pool f g) (unshared : f.Unshared pool) (mem : i ∈ pool)
    (there : f.focus? i = some s) (also : g.focus? i = some t) :
    (s.attempt database b).1 = (t.attempt database b).1 ∧
      Alike pool (f.put i (s.attempt database b).2) (g.put i (t.attempt database b).2) := by
  obtain ⟨t', also', same⟩ := alike.same mem there
  obtain rfl := Option.some.inj (also.symm.trans also')
  obtain ⟨answer, left⟩ := same.attempt database b
  obtain ⟨found, net, -⟩ := focus?_eq_some.mp there
  obtain ⟨-, net', -⟩ := focus?_eq_some.mp also
  have place : i < f.members.length := (List.getElem?_eq_some_iff.mp found).1
  refine ⟨answer, ?_, fun j among n at_ => ?_, ?_⟩
  · simp only [put, alike.members, left.member]
  · by_cases here : j = i
    · subst here
      rw [members_put_self place] at at_
      obtain rfl := Option.some.inj at_
      exact left.part.trans (by rw [left.member]; rfl)
    · rw [members_put_other _ _ here] at at_
      have apart := unshared i mem j among (Ne.symm here) s.member n found at_
      have before := (Focus.attempt_apart database b apart).1
      have after := (Focus.attempt_apart database b (same.member ▸ apart)).1
      have seen := alike.parts j among n at_
      rw [← net, ← net'] at seen
      exact before.trans (seen.trans after.symm)
  · obtain ⟨new, first, second⟩ := left.notes
    show (s.attempt database b).2.journal.Perm (t.attempt database b).2.journal
    rw [first, second]
    exact alike.notes.append_left new

/-- What a second attempt, on another member, does behind a first one. -/
structure Unhindered (database : String) (b : Batch) (f : Fleet τ ω) (s u t : Focus τ ω) :
    Prop where
  answer : (t.attempt database b).1 = (u.attempt database b).1
  same : Focus.Same (s.attempt database b).2.journal f.journal (t.attempt database b).2
    (u.attempt database b).2
  first : Secluded.part (s.attempt database b).2.member.transport (t.attempt database b).2.net =
    Secluded.part (s.attempt database b).2.member.transport (s.attempt database b).2.net
  others : ∀ x, Secluded.Apart s.member.transport x → Secluded.Apart u.member.transport x →
    Secluded.part x (t.attempt database b).2.net = Secluded.part x f.net

/-- A second attempt goes as it would have gone without the first. -/
theorem unhindered_attempt (database : String) (b : Batch) {i j : Nat} {s u : Focus τ ω}
    (unshared : f.Unshared pool) (first : i ∈ pool) (second : j ∈ pool) (ne : i ≠ j)
    (there : f.focus? i = some s) (also : f.focus? j = some u) :
    ∃ t, (f.put i (s.attempt database b).2).focus? j = some t ∧ Unhindered database b f s u t := by
  obtain ⟨found, net, -⟩ := focus?_eq_some.mp there
  obtain ⟨found', net', journal'⟩ := focus?_eq_some.mp also
  have apart := unshared i first j second ne s.member u.member found found'
  obtain ⟨seen, apart'⟩ := Focus.attempt_apart database b apart
  let t : Focus τ ω := ⟨u.member, (s.attempt database b).2.net, (s.attempt database b).2.journal⟩
  have begun : Focus.Same (s.attempt database b).2.journal f.journal t u := by
    refine ⟨rfl, ?_, [], rfl, journal'⟩
    exact seen.trans (by rw [net, net'])
  obtain ⟨answer, same⟩ := begun.attempt database b
  refine ⟨t, focus?_eq_some.mpr ⟨?_, rfl, rfl⟩, answer, same, ?_, fun x from_s from_u => ?_⟩
  · rw [members_put_other _ _ ne.symm]
    exact found'
  · exact (Focus.attempt_apart database b (s := t) (Secluded.apart_symm apart')).1
  · calc Secluded.part x (t.attempt database b).2.net
        = Secluded.part x (s.attempt database b).2.net :=
          (Focus.attempt_apart database b (s := t) from_u).1
      _ = Secluded.part x f.net := by rw [(Focus.attempt_apart database b from_s).1, net]

/-- Two attempts on different members come to the same in either order. -/
theorem alike_swap (database : String) (b : Batch) {i j : Nat} {s u : Focus τ ω}
    (unshared : f.Unshared pool) (first : i ∈ pool) (second : j ∈ pool) (ne : i ≠ j)
    (there : f.focus? i = some s) (also : f.focus? j = some u) :
    ∃ t v, (f.put i (s.attempt database b).2).focus? j = some t ∧
      (f.put j (u.attempt database b).2).focus? i = some v ∧
      (t.attempt database b).1 = (u.attempt database b).1 ∧
      (v.attempt database b).1 = (s.attempt database b).1 ∧
      Alike pool ((f.put i (s.attempt database b).2).put j (t.attempt database b).2)
        ((f.put j (u.attempt database b).2).put i (v.attempt database b).2) := by
  obtain ⟨t, behind_i, later_j⟩ :=
    unhindered_attempt database b unshared first second ne there also
  obtain ⟨v, behind_j, later_i⟩ :=
    unhindered_attempt database b unshared second first ne.symm also there
  obtain ⟨at_i, -, -⟩ := focus?_eq_some.mp there
  obtain ⟨at_j, -, -⟩ := focus?_eq_some.mp also
  have place_i : i < f.members.length := (List.getElem?_eq_some_iff.mp at_i).1
  have place_j : j < f.members.length := (List.getElem?_eq_some_iff.mp at_j).1
  refine ⟨t, v, behind_i, behind_j, later_j.answer, later_i.answer, ?_, ?_, ?_⟩
  · simp only [put, later_j.same.member, later_i.same.member]
    exact List.set_comm _ _ ne
  · intro k mem n found
    show Secluded.part n.transport (t.attempt database b).2.net =
      Secluded.part n.transport (v.attempt database b).2.net
    by_cases last : k = j
    · subst last
      rw [members_put_self (by simpa using place_j)] at found
      obtain rfl := Option.some.inj found
      rw [later_j.same.part, later_j.same.member, later_i.first]
    · rw [members_put_other _ _ last] at found
      by_cases early : k = i
      · subst early
        rw [members_put_self place_i] at found
        obtain rfl := Option.some.inj found
        rw [later_j.first, ← later_i.same.part, later_i.same.member]
      · rw [members_put_other _ _ early] at found
        have from_i := unshared i first k mem (Ne.symm early) s.member n at_i found
        have from_j := unshared j second k mem (Ne.symm last) u.member n at_j found
        rw [later_j.others _ from_i from_j, later_i.others _ from_j from_i]
  · obtain ⟨new_j, left_j, alone_j⟩ := later_j.same.notes
    obtain ⟨new_i, left_i, alone_i⟩ := later_i.same.notes
    show (t.attempt database b).2.journal.Perm (v.attempt database b).2.journal
    rw [left_j, left_i, alone_j, alone_i]
    exact List.perm_append_comm_assoc new_j new_i f.journal

theorem Refused.unshared {places : List Nat} (refused : Refused database b places f g)
    (unshared : f.Unshared pool) (among : ∀ i ∈ places, i ∈ pool) : g.Unshared pool := by
  induction refused with
  | nil => exact unshared
  | @cons i rest f g s t e there trial later ih =>
    have kept := unshared.attempt database b (among i List.mem_cons_self) there
    rw [trial] at kept
    exact ih kept fun j mem => among j (List.mem_cons_of_mem i mem)

/-- Members that refuse a batch refuse it on a fleet that is alike. -/
theorem Refused.alike {places : List Nat} {f' : Fleet τ ω}
    (refused : Refused database b places f g) (unshared : f.Unshared pool)
    (among : ∀ i ∈ places, i ∈ pool) (alike : Alike pool f f') :
    ∃ g', Refused database b places f' g' ∧ Alike pool g g' := by
  induction refused generalizing f' with
  | nil f => exact ⟨f', .nil f', alike⟩
  | @cons i rest f g s t e there trial later ih =>
    have mem := among i List.mem_cons_self
    obtain ⟨u, also, -⟩ := alike.same mem there
    obtain ⟨answer, after⟩ := alike.attempt database b unshared mem there also
    have kept := unshared.attempt database b mem there
    rw [trial] at answer after kept
    have refuses : u.attempt database b = (.error e, (u.attempt database b).2) :=
      Prod.ext answer.symm rfl
    obtain ⟨g', refused', alike'⟩ :=
      ih kept (fun j later => among j (List.mem_cons_of_mem i later)) after
    exact ⟨g', .cons also refuses refused', alike'⟩

/-- Members that refuse a batch one after another refuse it in every order. -/
theorem Refused.perm {places places' : List Nat} (perm : places.Perm places')
    (refused : Refused database b places f g) (unshared : f.Unshared pool)
    (among : ∀ i ∈ places, i ∈ pool) (distinct : places.Nodup) :
    ∃ g', Refused database b places' f g' ∧ Alike pool g g' := by
  induction perm generalizing f g with
  | nil => exact ⟨g, refused, .refl pool g⟩
  | @cons i early late perm ih =>
    cases refused with
    | cons there trial later =>
      have kept := unshared.attempt database b (among i List.mem_cons_self) there
      rw [trial] at kept
      obtain ⟨g', refused', alike⟩ := ih later kept
        (fun j mem => among j (List.mem_cons_of_mem i mem)) (List.nodup_cons.mp distinct).2
      exact ⟨g', .cons there trial refused', alike⟩
  | swap j i rest =>
    cases refused with
    | @cons _ _ _ _ s s' e there trial later =>
      cases later with
      | @cons _ _ _ _ t t' e' there' trial' later =>
        obtain ⟨first, distinct⟩ := List.nodup_cons.mp distinct
        have ne : i ≠ j := fun same => first (same ▸ List.mem_cons_self)
        have mem_i := among i List.mem_cons_self
        have mem_j := among j (List.mem_cons_of_mem i List.mem_cons_self)
        have place : j < f.members.length :=
          length_put i s' f ▸ (List.getElem?_eq_some_iff.mp (focus?_eq_some.mp there').1).1
        obtain ⟨u, also⟩ := exists_focus place
        obtain ⟨t₀, v, behind_i, behind_j, same_j, same_i, alike⟩ :=
          alike_swap database b unshared mem_i mem_j ne there also
        rw [trial] at behind_i same_i alike
        obtain rfl := Option.some.inj (behind_i.symm.trans there')
        rw [trial'] at same_j alike
        have kept := (unshared.attempt database b mem_i there)
        rw [trial] at kept
        have kept := kept.attempt database b mem_j there'
        rw [trial'] at kept
        obtain ⟨g', refused', alike'⟩ := later.alike kept
          (fun k mem => among k (List.mem_cons_of_mem i (List.mem_cons_of_mem j mem))) alike
        have refuses : u.attempt database b = (.error e', (u.attempt database b).2) :=
          Prod.ext same_j.symm rfl
        have refuses' : v.attempt database b = (.error e, (v.attempt database b).2) :=
          Prod.ext same_i rfl
        exact ⟨g', .cons also refuses (.cons behind_j refuses' refused'), alike'⟩
  | trans first second ih ih' =>
    obtain ⟨g', refused', alike⟩ := ih refused unshared among distinct
    obtain ⟨g'', refused'', alike'⟩ := ih' refused' unshared
      (fun i mem => among i (first.mem_iff.mpr mem)) (first.nodup_iff.mp distinct)
    exact ⟨g'', refused'', alike.trans alike'⟩

theorem Alike.unshared (alike : Alike pool f g) (unshared : f.Unshared pool) :
    g.Unshared pool := by
  unfold Unshared
  rw [← alike.members]
  exact unshared

/-- A dispatch that finds a pool exhausted finds it exhausted in every order. -/
theorem Alike.dispatch {p q : List Nat} (alike : Alike pool f g) (unshared : f.Unshared pool)
    (distinct : pool.Nodup) (within : ∀ i ∈ pool, i < f.members.length)
    (first : p.Perm (List.range pool.length)) (second : q.Perm (List.range pool.length))
    (exhausted : (f.dispatch database b pool p).1.isExhausted) :
    (g.dispatch database b pool q).1 = (f.dispatch database b pool p).1 ∧
      Alike pool (f.dispatch database b pool p).2 (g.dispatch database b pool q).2 ∧
      (f.dispatch database b pool p).2.Unshared pool ∧
      (f.dispatch database b pool p).2.members.length = f.members.length := by
  obtain ⟨verdict, places, perm, refused⟩ := refused_of_exhausted first within exhausted
  have among : ∀ i ∈ places, i ∈ pool := fun i mem => perm.mem_iff.mp mem
  have perm' := perm_places second
  obtain ⟨h, refused', alike'⟩ :=
    refused.perm (perm.trans perm'.symm) unshared among (perm.nodup_iff.mpr distinct)
  obtain ⟨g', refused'', alike''⟩ :=
    refused'.alike unshared (fun i mem => perm'.mem_iff.mp mem) alike
  have dispatched : g.dispatch database b pool q = (.exhausted pool.length pool.length, g') := by
    rw [Fleet.dispatch, tryAll_of_refused _ _ refused'', Nat.zero_add, perm'.length_eq]
  rw [dispatched, verdict]
  exact ⟨rfl, alike'.trans alike'', refused.unshared unshared among, refused.length_eq⟩

/-- As long as the dispatches of one run find the pool exhausted, those of the other do. -/
theorem Alike.dispatches (alike : Alike pool f g) (unshared : f.Unshared pool)
    (distinct : pool.Nodup) (within : ∀ i ∈ pool, i < f.members.length)
    (calls : List (Batch × List Nat × List Nat))
    (orders : ∀ c ∈ calls, c.2.1.Perm (List.range pool.length) ∧
      c.2.2.Perm (List.range pool.length))
    (exhausted : ∀ v ∈ (f.dispatches database pool (calls.map fun c => (c.1, c.2.1))).1,
      v.isExhausted) :
    let first := f.dispatches database pool (calls.map fun c => (c.1, c.2.1))
    let second := g.dispatches database pool (calls.map fun c => (c.1, c.2.2))
    second.1 = first.1 ∧ Alike pool first.2 second.2 ∧ first.2.Unshared pool ∧
      first.2.members.length = f.members.length := by
  induction calls generalizing f g with
  | nil => exact ⟨rfl, alike, unshared, rfl⟩
  | cons c rest ih =>
    obtain ⟨⟨p, q⟩, later⟩ := List.forall_mem_cons.mp orders
    obtain ⟨now, then_⟩ := List.forall_mem_cons.mp exhausted
    obtain ⟨verdict, after, kept, length⟩ := alike.dispatch unshared distinct within p q now
    obtain ⟨verdicts, end_, kept', length'⟩ :=
      ih after kept (fun i mem => length ▸ within i mem) later then_
    exact ⟨List.cons_eq_cons.mpr ⟨verdict, verdicts⟩, end_, kept', length'.trans length⟩

/-- A dispatch is refused alike in every order, or not at all. -/
theorem Alike.refusal_eq {p q : List Nat} (alike : Alike pool f g) (unshared : f.Unshared pool)
    (distinct : pool.Nodup) (within : ∀ i ∈ pool, i < f.members.length)
    (first : p.Perm (List.range pool.length)) (second : q.Perm (List.range pool.length)) :
    (f.dispatch database b pool p).1.refusal? = (g.dispatch database b pool q).1.refusal? := by
  by_cases exhausted : (f.dispatch database b pool p).1.isExhausted
  · rw [(alike.dispatch unshared distinct within first second exhausted).1]
  · by_cases exhausted' : (g.dispatch database b pool q).1.isExhausted
    · have within' : ∀ i ∈ pool, i < g.members.length := alike.members ▸ within
      rw [(alike.symm.dispatch (alike.unshared unshared) distinct within' second first
        exhausted').1]
    · rw [Verdict.isExhausted, Bool.not_eq_true, Option.isSome_eq_false_iff,
        Option.isNone_iff_eq_none] at exhausted exhausted'
      rw [exhausted, exhausted']

/-- What two runs of dispatches to a pool have in common as long as no batch is delivered. -/
structure Agree (database : String) (pool : List Nat) (first second : List Verdict × Fleet τ ω) :
    Prop where
  verdicts : first.1 = second.1
  members : first.2.members = second.2.members
  /-- The same was noted, in some order. -/
  notes : first.2.journal.Perm second.2.journal
  attempts : ∀ failureClass endpoint status : String,
    first.2.journal.total (.writeAttempts failureClass endpoint status) =
      second.2.journal.total (.writeAttempts failureClass endpoint status)
  recoveries : ∀ endpoint status : String,
    first.2.journal.total (.recoveries endpoint status) =
      second.2.journal.total (.recoveries endpoint status)
  /-- The next batch is delivered after both or after none, whatever its orders are, and an
  exhausted pool is reported with the same numbers. -/
  next : ∀ (b : Batch) (p q : List Nat), p.Perm (List.range pool.length) →
    q.Perm (List.range pool.length) →
    (first.2.dispatch database b pool p).1.refusal? =
      (second.2.dispatch database b pool q).1.refusal?

theorem Agree.symm {first second : List Verdict × Fleet τ ω}
    (agree : Agree database pool first second) : Agree database pool second first where
  verdicts := agree.verdicts.symm
  members := agree.members.symm
  notes := agree.notes.symm
  attempts failureClass endpoint status := (agree.attempts failureClass endpoint status).symm
  recoveries endpoint status := (agree.recoveries endpoint status).symm
  next b p q left right := (agree.next b q p right left).symm

/-- Two runs from one fleet, of which the first delivers nothing, agree. -/
theorem agree_of_exhausted (database : String) (unshared : f.Unshared pool)
    (distinct : pool.Nodup) (within : ∀ i ∈ pool, i < f.members.length)
    (calls : List (Batch × List Nat × List Nat))
    (orders : ∀ c ∈ calls, c.2.1.Perm (List.range pool.length) ∧
      c.2.2.Perm (List.range pool.length))
    (exhausted : ∀ v ∈ (f.dispatches database pool (calls.map fun c => (c.1, c.2.1))).1,
      v.isExhausted) :
    Agree database pool (f.dispatches database pool (calls.map fun c => (c.1, c.2.1)))
      (f.dispatches database pool (calls.map fun c => (c.1, c.2.2))) := by
  obtain ⟨verdicts, alike, kept, length⟩ :=
    (Alike.refl pool f).dispatches unshared distinct within calls orders exhausted
  exact {
    verdicts := verdicts.symm
    members := alike.members
    notes := alike.notes
    attempts := fun failureClass endpoint status => Journal.total_of_perm
      (Series.byOne_writeAttempts failureClass endpoint status) alike.notes
    recoveries := fun endpoint status => Journal.total_of_perm
      (Series.byOne_recoveries endpoint status) alike.notes
    next := fun b p q left right => alike.refusal_eq kept distinct
      (fun i mem => length ▸ within i mem) left right }

/-- The orders of the dispatches decide who gets a batch and not whether it is delivered. Two runs
over one pool whose members share nothing agree up to the first batch that is delivered in either of
them, and that batch is delivered in both. -/
theorem order_decides_who_not_whether (database : String) (unshared : f.Unshared pool)
    (distinct : pool.Nodup) (within : ∀ i ∈ pool, i < f.members.length)
    (calls : List (Batch × List Nat × List Nat))
    (orders : ∀ c ∈ calls, c.2.1.Perm (List.range pool.length) ∧
      c.2.2.Perm (List.range pool.length)) :
    let first := f.dispatches database pool (calls.map fun c => (c.1, c.2.1))
    let second := f.dispatches database pool (calls.map fun c => (c.1, c.2.2))
    (∀ v ∈ first.1, v.isExhausted) ∨ (∀ v ∈ second.1, v.isExhausted) →
      Agree database pool first second := by
  rintro first second (exhausted | exhausted)
  · exact agree_of_exhausted database unshared distinct within calls orders exhausted
  · -- The same with the two choices of orders exchanged.
    let flipped := calls.map fun c => (c.1, c.2.2, c.2.1)
    have orders' : ∀ c ∈ flipped, c.2.1.Perm (List.range pool.length) ∧
        c.2.2.Perm (List.range pool.length) := by
      intro c mem
      obtain ⟨d, there, rfl⟩ := List.mem_map.mp mem
      exact (orders d there).symm
    have agree := agree_of_exhausted database unshared distinct within flipped orders'
    simp only [flipped, List.map_map, Function.comp_def] at agree
    exact (agree exhausted).symm

/-- A member whose database cannot be created, and one whose first write times out. -/
def faltering : Fleet Scripted Unit :=
  ⟨[(Member.ready { Scripted.missingDatabase "a" with failCreate := true }).1,
    (Member.ready { Scripted.healthy "b" with script := [.timeout] }).1], (), []⟩

theorem faltering_order_decides_who_not_whether :
    faltering.Unshared [0, 1] ∧
    (faltering.dispatches "db" [0, 1] [(⟨⟨"db", "", ""⟩, []⟩, [0, 1])]).1 = [.exhausted 2 2] ∧
    Agree "db" [0, 1] (faltering.dispatches "db" [0, 1] [(⟨⟨"db", "", ""⟩, []⟩, [0, 1])])
      (faltering.dispatches "db" [0, 1] [(⟨⟨"db", "", ""⟩, []⟩, [1, 0])]) := by
  have unshared : faltering.Unshared [0, 1] := fun _ _ _ _ _ _ _ _ _ => trivial
  have exhausted : (faltering.dispatches "db" [0, 1] [(⟨⟨"db", "", ""⟩, []⟩, [0, 1])]).1 =
      [.exhausted 2 2] := by decide
  refine ⟨unshared, exhausted, ?_⟩
  have agree := order_decides_who_not_whether "db" unshared (by decide) (by decide)
    [(⟨⟨"db", "", ""⟩, []⟩, [0, 1], [1, 0])] (by decide)
  refine agree (Or.inl ?_)
  simp only [List.map_cons, List.map_nil, exhausted]
  decide

end Fleet

end PointRelay
