import PointRelay.Proofs.Fleet.Trial

/-!
# Dispatches one after another

Batches are dispatched to one pool in turn, each in an order of its own. A dispatch either delivers
its batch or finds the pool exhausted, and then every member was tried and refused.
-/

namespace PointRelay

namespace Verdict

/-- The numbers of an exhausted pool. -/
def refusal? : Verdict → Option (Nat × Nat)
  | delivered _ _ => none
  | exhausted attempted poolSize => some (attempted, poolSize)

def isExhausted (v : Verdict) : Bool := v.refusal?.isSome

end Verdict

variable {τ ω : Type} [Transport τ ω]

namespace Fleet

/-- Dispatch batches one after another, each in its order. -/
def dispatches (database : String) (pool : List Nat) :
    List (Batch × List Nat) → Fleet τ ω → List Verdict × Fleet τ ω
  | [], f => ([], f)
  | (b, order) :: rest, f =>
    let (v, g) := f.dispatch database b pool order
    let (vs, h) := dispatches database pool rest g
    (v :: vs, h)

/-- A dispatch that finds the pool exhausted has been refused by all members in its order. -/
theorem refused_of_exhausted {database : String} {b : Batch} {pool order : List Nat}
    {f : Fleet τ ω} (all : order.Perm (List.range pool.length))
    (within : ∀ i ∈ pool, i < f.members.length)
    (exhausted : (f.dispatch database b pool order).1.isExhausted) :
    (f.dispatch database b pool order).1 = .exhausted pool.length pool.length ∧
      ∃ places, places.Perm pool ∧
        Refused database b places f (f.dispatch database b pool order).2 := by
  obtain ⟨places, perm, tried⟩ := tried_dispatch database b f all within
  generalize f.dispatch database b pool order = result at exhausted tried ⊢
  obtain ⟨v, g⟩ := result
  cases tried with
  | delivered order refused there taken => cases exhausted
  | exhausted refused => exact ⟨by rw [perm.length_eq, Nat.zero_add], places, perm, refused⟩

end Fleet

end PointRelay
