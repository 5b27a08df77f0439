import PointRelay.Proofs.Fleet.Closing
import PointRelay.Scripted

/-!
# Ownership of connections

A pool owns the connections of a fleet when those in it were never closed and all others were closed
once. New members join the pool that takes them in; closing the members of a pool that is given up
leaves the others to their owner.
-/

namespace PointRelay

/-- Transports that count how often they were asked to close. -/
class CountsCloses (τ : Type) (ω : outParam Type) extends Transport τ ω where
  closes : τ → Nat
  closes_write (b : Batch) (t : τ) (net : ω) :
    closes (Transport.write b t net).transport = closes t
  closes_create (database : String) (t : τ) (net : ω) :
    closes (Transport.create database t net).transport = closes t
  closes_close (t : τ) (net : ω) : closes (Transport.close t net).transport = closes t + 1

instance : CountsCloses Scripted Unit where
  closes t := t.probe.closes
  closes_write _ _ _ := rfl
  closes_create database t _ := by
    by_cases fails : t.failCreate = true <;> simp [Transport.create, Scripted.create, fails]
  closes_close _ _ := rfl

variable {τ ω : Type} [CountsCloses τ ω]

/-- How often a member was closed. -/
def Member.closes (m : Member τ) : Nat := CountsCloses.closes m.transport

namespace Fleet

/-- The members of a pool were never closed, all others once. -/
def Owned (pool : List Nat) (f : Fleet τ ω) : Prop :=
  ∀ i m, f.members[i]? = some m → (i ∈ pool ∧ m.closes = 0) ∨ (i ∉ pool ∧ m.closes = 1)

theorem closes_attempt {database : String} {b : Batch} {s t : Focus τ ω}
    {answer : Except ConnectionError Unit} (tried : s.attempt database b = (answer, t)) :
    t.member.closes = s.member.closes := by
  unfold Member.closes
  cases answer with
  | ok =>
    rw [(Focus.attempt_ok tried).2.2.1]
    exact CountsCloses.closes_write b _ _
  | error e =>
    obtain ⟨-, -, ⟨-, left, -⟩ | ⟨-, left, -⟩⟩ := Focus.attempt_error tried
    · rw [left]
      exact CountsCloses.closes_write b _ _
    · rw [left]
      exact (CountsCloses.closes_create database _ _).trans (CountsCloses.closes_write b _ _)

theorem closes_close (s : Focus τ ω) : s.close.2.member.closes = s.member.closes + 1 :=
  CountsCloses.closes_close s.member.transport s.net

namespace Owned

variable {pool : List Nat} {f g : Fleet τ ω}

/-- Ownership is a matter of the counts alone. -/
theorem of_closes (owned : Owned pool f)
    (same : ∀ j : Nat, g.members[j]?.map Member.closes = f.members[j]?.map Member.closes) :
    Owned pool g := by
  intro i m found
  have counts := same i
  rw [found] at counts
  obtain ⟨m', found', closes⟩ := Option.map_eq_some_iff.mp counts.symm
  rw [← closes]
  exact owned i m' found'

theorem tried {database : String} {b : Batch} {poolSize attempts : Nat} {places : List Nat}
    {v : Verdict} (owned : Owned pool f)
    (tried : Tried database b poolSize attempts places f v g) : Owned pool g :=
  owned.of_closes (tried.view_eq Member.closes closes_attempt)

/-- Fresh members are owned by the pool that has them from the start. -/
theorem take {ms : List (Member τ)} (owned : Owned pool f) (fresh : ∀ m ∈ ms, m.closes = 0)
    (taken : g.members = f.members ++ ms) :
    Owned (pool ++ List.range' f.members.length ms.length) g := by
  intro i m found
  rw [taken] at found
  simp only [List.mem_append, List.mem_range'_1]
  by_cases old : i < f.members.length
  · rw [List.getElem?_append_left old] at found
    rcases owned i m found with ⟨mem, closes⟩ | ⟨out, closes⟩
    · exact Or.inl ⟨Or.inl mem, closes⟩
    · exact Or.inr ⟨fun mem => mem.elim out fun new => by omega, closes⟩
  · rw [List.getElem?_append_right (by omega)] at found
    obtain ⟨upper, -⟩ := List.getElem?_eq_some_iff.mp found
    exact Or.inl ⟨Or.inr (by omega), fresh m (List.mem_of_getElem? found)⟩

/-- A pool whose members are closed owns them no longer. -/
theorem asked {more : List Nat} {answers : List (Except ConnectionError Unit)}
    (owned : Owned (pool ++ more) f) (distinct : (pool ++ more).Nodup)
    (asked : Asked pool f answers g) : Owned more g := by
  obtain ⟨distinct, -, apart⟩ := List.nodup_append.mp distinct
  intro i m found
  by_cases mem : i ∈ pool
  · obtain ⟨s, before, after⟩ := asked.once distinct mem
    obtain rfl := Option.some.inj (found.symm.trans after)
    refine Or.inr ⟨fun also => apart i mem i also rfl, ?_⟩
    rcases owned i s.member before with ⟨-, closes⟩ | ⟨out, -⟩
    · rw [closes_close, closes]
    · exact absurd (List.mem_append_left more mem) out
  · rw [asked.untouched mem] at found
    simpa [mem] using owned i m found

end Owned

end Fleet

end PointRelay
