import PointRelay.Proofs.Fleet.Dispatches
import PointRelay.Proofs.Fleet.Moves
import PointRelay.Scripted

/-!
# Recovery heals

A scripted transport whose only fault is a missing database is cured by the first write that it
refuses, as the database is created behind that write. A cured transport takes every batch, and
nothing that is asked of it undoes that. An exhausted pool has asked all its members, so a pool with
such a member is found exhausted at most once.
-/

namespace PointRelay

namespace Scripted

/-- The only fault that a transport can have is that its database is missing. -/
structure Curable (t : Scripted) : Prop where
  script : t.script = []
  takes : t.fallback = .ok
  creates : t.failCreate = false

/-- Curable, and there is no fault. -/
structure Cured (t : Scripted) : Prop extends Curable t where
  stands : t.needsDatabase = true → t.probe.databaseExists = true

theorem Curable.write {t : Scripted} (curable : t.Curable) (b : Batch) : (t.write b).2.Curable :=
  ⟨by simp [Scripted.write, curable.script], curable.takes, curable.creates⟩

theorem Cured.write {t : Scripted} (cured : t.Cured) (b : Batch) :
    (t.write b).1 = .ok () ∧ (t.write b).2.Cured := by
  have taken : t.outcome = .ok := by
    unfold outcome
    rw [cured.script]
    by_cases needed : t.needsDatabase = true
    · simp [needed, cured.stands needed, cured.takes]
    · simp [needed, cured.takes]
  refine ⟨?_, cured.toCurable.write b, cured.stands⟩
  simp [Scripted.write, taken, Outcome.answer]

/-- A curable transport that refuses a batch has no database. -/
theorem Curable.missing {t : Scripted} (curable : t.Curable) {b : Batch} {e : ConnectionError}
    (refused : (t.write b).1 = .error e) : e.failureClass = .schemaMissing := by
  have failed : t.outcome.answer t.name b.settings.database = .error e := refused
  unfold outcome at failed
  rw [curable.script] at failed
  by_cases missing : (t.needsDatabase && !t.probe.databaseExists) = true
  · simp only [missing, if_true, Outcome.answer] at failed
    obtain rfl := Except.error.inj failed
    rfl
  · simp only [missing, curable.takes, Outcome.answer] at failed
    cases failed

/-- Asking for the database cures, whether it was there or not. -/
theorem Curable.create {t : Scripted} (curable : t.Curable) (database : String) :
    (t.create database).2.Cured := by
  unfold Scripted.create
  rw [if_neg (by simp [curable.creates])]
  exact ⟨⟨curable.script, curable.takes, curable.creates⟩, fun _ => rfl⟩

end Scripted

namespace Focus

variable {s t : Focus Scripted Unit} {database : String} {b : Batch} {e : ConnectionError}

/-- An attempt on a curable member delivers the batch or cures. -/
theorem cured_of_refused (curable : s.member.transport.Curable)
    (refused : s.attempt database b = (.error e, t)) : t.member.transport.Cured := by
  obtain ⟨answer, -, ⟨other, -⟩ | ⟨-, left, -⟩⟩ := attempt_error refused
  · exact absurd (curable.missing answer) other
  · rw [left]
    exact (curable.write b).create database

theorem attempt_cured (database : String) (b : Batch) (cured : s.member.transport.Cured) :
    (s.attempt database b).1 = .ok () ∧ (s.attempt database b).2.member.transport.Cured := by
  obtain ⟨taken, kept⟩ := cured.write b
  have answer : (s.attempt database b).1 = .ok () := (attempt_answer database b s).trans taken
  obtain ⟨-, -, left, -⟩ := attempt_ok (Prod.ext answer rfl)
  exact ⟨answer, left ▸ kept⟩

theorem attempt_curable (database : String) (b : Batch) (curable : s.member.transport.Curable) :
    (s.attempt database b).2.member.transport.Curable := by
  rcases tried : s.attempt database b with ⟨e | ⟨⟩, t⟩
  · exact (cured_of_refused curable tried).toCurable
  · obtain ⟨-, -, left, -⟩ := attempt_ok tried
    rw [left]
    exact curable.write b

end Focus

namespace Fleet

variable {f g : Fleet Scripted Unit} {database : String} {b : Batch} {i : Nat}

/-- There is a member at a place, and its transport has a property. -/
def Has (P : Scripted → Prop) (i : Nat) (f : Fleet Scripted Unit) : Prop :=
  ∃ m, f.members[i]? = some m ∧ P m.transport

theorem Has.put {P : Scripted → Prop} {j : Nat} {s t : Focus Scripted Unit} (has : f.Has P i)
    (there : f.focus? j = some s) (kept : P s.member.transport → P t.member.transport) :
    (f.put j t).Has P i := by
  obtain ⟨m, found, holds⟩ := has
  by_cases same : i = j
  · subst same
    obtain ⟨at_, -⟩ := focus?_eq_some.mp there
    obtain rfl := Option.some.inj (at_.symm.trans found)
    exact ⟨t.member, members_put_self (List.getElem?_eq_some_iff.mp found).1, kept holds⟩
  · exact ⟨m, (members_put_other _ _ same).trans found, holds⟩

/-- What every attempt keeps of a transport, the trial of members one after another keeps. -/
theorem Has.tried {P : Scripted → Prop} {poolSize attempts : Nat} {places : List Nat} {v : Verdict}
    (has : f.Has P i)
    (kept : ∀ s : Focus Scripted Unit, P s.member.transport →
      P (s.attempt database b).2.member.transport)
    (tried : Tried database b poolSize attempts places f v g) : g.Has P i :=
  tried.keeps (fun there holds => holds.put there (kept _)) has

/-- A curable member that refused with others is cured. -/
theorem Refused.cured {places : List Nat} (refused : Refused database b places f g)
    (mem : i ∈ places) (curable : f.Has Scripted.Curable i) : g.Has Scripted.Cured i := by
  induction refused with
  | nil => cases mem
  | @cons k rest f g s t e there trial later ih =>
    rcases List.mem_cons.mp mem with rfl | among
    · obtain ⟨m, found, curable⟩ := curable
      obtain ⟨at_, -⟩ := focus?_eq_some.mp there
      obtain rfl := Option.some.inj (at_.symm.trans found)
      have now : (f.put i t).Has Scripted.Cured i :=
        ⟨t.member, members_put_self (List.getElem?_eq_some_iff.mp found).1,
          Focus.cured_of_refused curable trial⟩
      have rest_tried : Tried database b 0 0 rest (f.put i t) (.exhausted (0 + rest.length) 0) g :=
        .exhausted later
      exact now.tried (fun _ cured => (Focus.attempt_cured database b cured).2) rest_tried
    · refine ih among (curable.put there fun holds => ?_)
      have kept := Focus.attempt_curable database b holds
      rw [trial] at kept
      exact kept

/-- A cured member refuses nothing. -/
theorem Refused.not_cured {places : List Nat} (refused : Refused database b places f g)
    (mem : i ∈ places) : ¬ f.Has Scripted.Cured i := by
  induction refused with
  | nil => cases mem
  | @cons k rest f g s t e there trial later ih =>
    intro has
    rcases List.mem_cons.mp mem with rfl | among
    · obtain ⟨m, found, cured⟩ := has
      obtain ⟨at_, -⟩ := focus?_eq_some.mp there
      obtain rfl := Option.some.inj (at_.symm.trans found)
      have taken := (Focus.attempt_cured database b cured).1
      rw [trial] at taken
      cases taken
    · refine ih among (has.put there fun cured => ?_)
      have kept := (Focus.attempt_cured database b cured).2
      rw [trial] at kept
      exact kept

section
variable {poolSize attempts : Nat} {places : List Nat} {v : Verdict}

/-- What a trial does to a curable member: if none took the batch it is cured. -/
theorem Tried.curable (tried : Tried database b poolSize attempts places f v g) (mem : i ∈ places)
    (curable : f.Has Scripted.Curable i) :
    g.Has Scripted.Curable i ∧ (v.isExhausted → g.Has Scripted.Cured i) := by
  refine ⟨curable.tried (fun _ => Focus.attempt_curable database b) tried, fun exhausted => ?_⟩
  cases tried with
  | delivered order refused there taken => cases exhausted
  | exhausted refused => exact refused.cured mem curable

/-- With a cured member among those tried a batch is delivered. -/
theorem Tried.cured (tried : Tried database b poolSize attempts places f v g) (mem : i ∈ places)
    (cured : f.Has Scripted.Cured i) : v.isExhausted = false ∧ g.Has Scripted.Cured i := by
  refine ⟨?_, cured.tried (fun _ held => (Focus.attempt_cured database b held).2) tried⟩
  cases tried with
  | delivered order refused there taken => rfl
  | exhausted refused => exact absurd cured (refused.not_cured mem)

end

section
variable {pool : List Nat} {calls : List (Batch × List Nat)}

/-- A pool with a cured member is never found exhausted. -/
theorem dispatches_cured (within : ∀ i ∈ pool, i < f.members.length) (mem : i ∈ pool)
    (cured : f.Has Scripted.Cured i)
    (orders : ∀ c ∈ calls, c.2.Perm (List.range pool.length)) :
    (f.dispatches database pool calls).1.countP Verdict.isExhausted = 0 := by
  induction calls generalizing f with
  | nil => rfl
  | cons c rest ih =>
    obtain ⟨order, later⟩ := List.forall_mem_cons.mp orders
    obtain ⟨places, perm, tried⟩ := tried_dispatch database c.1 f order within
    obtain ⟨delivered, kept⟩ := tried.cured (perm.mem_iff.mpr mem) cured
    rw [dispatches, List.countP_cons_of_neg (by simp [delivered])]
    exact ih (fun j among => tried.length_eq ▸ within j among) kept later

/-- A pool with a curable member is found exhausted at most once. -/
theorem dispatches_curable (within : ∀ i ∈ pool, i < f.members.length) (mem : i ∈ pool)
    (curable : f.Has Scripted.Curable i)
    (orders : ∀ c ∈ calls, c.2.Perm (List.range pool.length)) :
    (f.dispatches database pool calls).1.countP Verdict.isExhausted ≤ 1 := by
  induction calls generalizing f with
  | nil => exact Nat.zero_le 1
  | cons c rest ih =>
    obtain ⟨order, later⟩ := List.forall_mem_cons.mp orders
    obtain ⟨places, perm, tried⟩ := tried_dispatch database c.1 f order within
    obtain ⟨kept, cures⟩ := tried.curable (perm.mem_iff.mpr mem) curable
    have within' : ∀ j ∈ pool, j < (f.dispatch database c.1 pool c.2).2.members.length :=
      fun j among => tried.length_eq ▸ within j among
    rw [dispatches, List.countP_cons]
    by_cases exhausted : (f.dispatch database c.1 pool c.2).1.isExhausted
    · have none : ((f.dispatch database c.1 pool c.2).2.dispatches database pool rest).1.countP
          Verdict.isExhausted = 0 := dispatches_cured within' mem (cures exhausted) later
      rw [if_pos exhausted]
      omega
    · rw [if_neg exhausted]
      exact ih within' kept later

end

end Fleet

end PointRelay
