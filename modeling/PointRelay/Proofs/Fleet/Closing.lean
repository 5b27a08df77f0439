import PointRelay.Proofs.Fleet.Trial

/-!
# Closing members

The members of a pool are closed one after another. Each is asked once, whatever the others answer,
and the failures are reported in the order of the pool.
-/

namespace PointRelay

variable {τ ω : Type}

/-- The error of an answer, if it is one. -/
def failure? : Except ConnectionError Unit → Option ConnectionError
  | .ok _ => none
  | .error e => some e

theorem failure?_eq_none {answer : Except ConnectionError Unit} :
    failure? answer = none ↔ answer = .ok () := by
  cases answer <;> simp [failure?]

namespace Focus

/-- Note a close that failed. -/
def told (answer : Except ConnectionError Unit) (s : Focus τ ω) : Focus τ ω :=
  match answer with
  | .ok _ => s
  | .error e => s.note (.notClosed s.member.endpoint e)

@[simp] theorem told_member (answer : Except ConnectionError Unit) (s : Focus τ ω) :
    (s.told answer).member = s.member := by
  cases answer <;> rfl

end Focus

namespace Fleet

variable [Transport τ ω]

/-- The members at some places are asked to close one after another, and answer. -/
inductive Asked : List Nat → Fleet τ ω → List (Except ConnectionError Unit) → Fleet τ ω → Prop where
  | nil (f : Fleet τ ω) : Asked [] f [] f
  | cons {i : Nat} {rest : List Nat} {f g : Fleet τ ω} {s : Focus τ ω}
      {answers : List (Except ConnectionError Unit)} (there : f.focus? i = some s)
      (later : Asked rest (f.put i (s.close.2.told s.close.1)) answers g) :
      Asked (i :: rest) f (s.close.1 :: answers) g

theorem closeAll_cons {i : Nat} {f : Fleet τ ω} {s : Focus τ ω} (rest : List Nat)
    (there : f.focus? i = some s) :
    closeAll (i :: rest) f =
      ((failure? s.close.1).toList ++ (closeAll rest (f.put i (s.close.2.told s.close.1))).1,
        (closeAll rest (f.put i (s.close.2.told s.close.1))).2) := by
  rw [closeAll, there]
  rcases asked : s.close with ⟨e | ⟨⟩, t⟩ <;> simp [asked, failure?, Focus.told]

/-- Closing asks every member once and collects the failures. -/
theorem asked_closeAll (places : List Nat) (f : Fleet τ ω)
    (within : ∀ i ∈ places, i < f.members.length) :
    ∃ answers, Asked places f answers (closeAll places f).2 ∧
      (closeAll places f).1 = answers.filterMap failure? := by
  induction places generalizing f with
  | nil => exact ⟨[], .nil f, rfl⟩
  | cons i rest ih =>
    obtain ⟨s, there⟩ := exists_focus (within i List.mem_cons_self)
    obtain ⟨answers, asked, failures⟩ := ih (f.put i (s.close.2.told s.close.1)) fun j mem => by
      simpa using within j (List.mem_cons_of_mem i mem)
    rw [closeAll_cons rest there]
    refine ⟨s.close.1 :: answers, .cons there asked, ?_⟩
    rw [failures]
    cases s.close.1 <;> rfl

namespace Asked

variable {places : List Nat} {f g : Fleet τ ω} {answers : List (Except ConnectionError Unit)}

theorem length_eq (asked : Asked places f answers g) :
    g.members.length = f.members.length := by
  induction asked with
  | nil => rfl
  | cons _ _ ih => rw [ih, length_put]

theorem untouched (asked : Asked places f answers g) {j : Nat} (other : j ∉ places) :
    g.members[j]? = f.members[j]? := by
  induction asked with
  | nil => rfl
  | cons _ _ ih =>
    obtain ⟨ne, later⟩ := List.ne_and_not_mem_of_not_mem_cons other
    rw [ih later, members_put_other _ _ ne]

/-- Every member that is asked is closed once, from where it stood. -/
theorem once (asked : Asked places f answers g) (distinct : places.Nodup) {j : Nat}
    (mem : j ∈ places) :
    ∃ s : Focus τ ω, f.members[j]? = some s.member ∧ g.members[j]? = some s.close.2.member := by
  induction asked with
  | nil => cases mem
  | @cons i rest f g s answers there later ih =>
    obtain ⟨first, distinct⟩ := List.nodup_cons.mp distinct
    rcases List.mem_cons.mp mem with rfl | mem
    · have found := (focus?_eq_some.mp there).1
      have place : j < f.members.length := (List.getElem?_eq_some_iff.mp found).1
      refine ⟨s, found, ?_⟩
      rw [later.untouched first, members_put_self place, Focus.told_member]
    · have ne : j ≠ i := fun same => first (same ▸ mem)
      obtain ⟨t, found, closed⟩ := ih distinct mem
      rw [members_put_other _ _ ne] at found
      exact ⟨t, found, closed⟩

/-- What every close keeps of a fleet, closing members one after another keeps. -/
theorem keeps {R : Fleet τ ω → Prop}
    (closed : ∀ {f : Fleet τ ω} {i : Nat} {s : Focus τ ω}, f.focus? i = some s → R f →
      R (f.put i (s.close.2.told s.close.1)))
    (asked : Asked places f answers g) (holds : R f) : R g := by
  induction asked with
  | nil => exact holds
  | cons there _ ih => exact ih (closed there holds)

/-- What no close changes of a member is the same afterwards at every place. -/
theorem view_eq {α : Type} (view : Member τ → α)
    (keeps : ∀ s : Focus τ ω, view s.close.2.member = view s.member)
    (asked : Asked places f answers g) (j : Nat) :
    g.members[j]?.map view = f.members[j]?.map view := by
  induction asked with
  | nil => rfl
  | @cons i rest f g s answers there later ih =>
    rw [ih, view_put there (by rw [Focus.told_member, keeps s])]

end Asked

end Fleet

end PointRelay
