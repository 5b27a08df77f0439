import Mathlib.Algebra.GroupWithZero.Nat
import Mathlib.Data.List.Forall2
import PointRelay.Proofs.Fleet.Closing
import PointRelay.Scripted

/-!
# Ledgers

A transport that takes a batch wholly or not at all keeps a ledger of the batches it took. Refusals,
creations and closing leave every ledger of a fleet as it is, and a dispatch that delivers puts the
batch into one of them.
-/

namespace PointRelay

/-- Transports that take a batch wholly or not at all. -/
class Ledger (τ : Type) (ω : outParam Type) extends Transport τ ω where
  /-- The batches that were taken, newest first. -/
  accepted : τ → List Batch
  accepted_of_ok (b : Batch) (t : τ) (net : ω) :
    (Transport.write b t net).answer = .ok () →
      accepted (Transport.write b t net).transport = b :: accepted t
  accepted_of_error (b : Batch) (t : τ) (net : ω) (e : ConnectionError) :
    (Transport.write b t net).answer = .error e →
      accepted (Transport.write b t net).transport = accepted t
  accepted_create (database : String) (t : τ) (net : ω) :
    accepted (Transport.create database t net).transport = accepted t
  accepted_close (t : τ) (net : ω) :
    accepted (Transport.close t net).transport = accepted t

/-- A scripted transport keeps its ledger in its probe. -/
instance : Ledger Scripted Unit where
  accepted t := t.probe.accepted
  accepted_of_ok b t _ taken := by
    change (t.outcome.answer t.name b.settings.database) = .ok () at taken
    have ok : t.outcome = .ok := by
      cases outcome : t.outcome <;> simp_all [Scripted.Outcome.answer]
    simp [Transport.write, Scripted.write, ok]
  accepted_of_error b t _ e refused := by
    change (t.outcome.answer t.name b.settings.database) = .error e at refused
    have failed : t.outcome ≠ .ok := by
      intro ok
      simp [ok, Scripted.Outcome.answer] at refused
    simp [Transport.write, Scripted.write, failed]
  accepted_create database t _ := by
    by_cases fails : t.failCreate = true <;> simp [Transport.create, Scripted.create, fails]
  accepted_close _ _ := rfl

/-- The points of the batches in some ledgers. -/
def points (ledgers : List (List Batch)) : Nat := (ledgers.flatten.map Batch.size).sum

theorem points_append (first second : List (List Batch)) :
    points (first ++ second) = points first + points second := by
  simp [points]

theorem points_set {ledgers : List (List Batch)} {i : Nat} {old : List Batch} (b : Batch)
    (found : ledgers[i]? = some old) :
    points (ledgers.set i (b :: old)) = points ledgers + b.size := by
  induction ledgers generalizing i with
  | nil => cases found
  | cons ledger rest ih =>
    cases i with
    | zero =>
      obtain rfl := Option.some.inj found
      simp [points]
      omega
    | succ i =>
      have later := ih found
      simp only [points, List.set_cons_succ, List.flatten_cons, List.map_append,
        List.sum_append] at later ⊢
      omega

/-- Ledgers that end as they were, place by place. -/
def Grown : List (List Batch) → List (List Batch) → Prop := List.Forall₂ (· <:+ ·)

namespace Grown

theorem refl (ledgers : List (List Batch)) : Grown ledgers ledgers :=
  List.forall₂_same.mpr fun ledger _ => List.suffix_refl ledger

theorem trans {first second third : List (List Batch)} (early : Grown first second)
    (late : Grown second third) : Grown first third := by
  unfold Grown at *
  induction early generalizing third with
  | nil => exact late
  | cons ends _ ih =>
    cases late with
    | cons ends' later => exact .cons (ends.trans ends') (ih later)

theorem append {before after : List (List Batch)} (grown : Grown before after)
    (more : List (List Batch)) : Grown (before ++ more) (after ++ more) :=
  List.rel_append grown (refl more)

theorem set {ledgers : List (List Batch)} {i : Nat} {old : List Batch} (b : Batch)
    (found : ledgers[i]? = some old) : Grown ledgers (ledgers.set i (b :: old)) := by
  induction ledgers generalizing i with
  | nil => cases found
  | cons ledger rest ih =>
    cases i with
    | zero =>
      obtain rfl := Option.some.inj found
      exact .cons (List.suffix_cons b ledger) (refl rest)
    | succ i => exact .cons (List.suffix_refl ledger) (ih found)

end Grown

variable {τ ω : Type} [Ledger τ ω]

def Member.accepted (m : Member τ) : List Batch := Ledger.accepted m.transport

namespace Fleet

/-- The ledgers of all members, by place. -/
def ledgers (f : Fleet τ ω) : List (List Batch) := f.members.map Member.accepted

theorem accepted_of_error {database : String} {b : Batch} {s t : Focus τ ω} {e : ConnectionError}
    (refused : s.attempt database b = (.error e, t)) : t.member.accepted = s.member.accepted := by
  obtain ⟨answer, -, ⟨-, left, -⟩ | ⟨-, left, -⟩⟩ := Focus.attempt_error refused
  · rw [Member.accepted, left]
    exact Ledger.accepted_of_error b _ _ e answer
  · rw [Member.accepted, left]
    exact (Ledger.accepted_create database _ _).trans (Ledger.accepted_of_error b _ _ e answer)

theorem accepted_of_ok {database : String} {b : Batch} {s t : Focus τ ω}
    (taken : s.attempt database b = (.ok (), t)) :
    t.member.accepted = b :: s.member.accepted := by
  obtain ⟨answer, -, left, -⟩ := Focus.attempt_ok taken
  rw [Member.accepted, left]
  exact Ledger.accepted_of_ok b _ _ answer

theorem Refused.ledgers_eq {database : String} {b : Batch} {places : List Nat} {f g : Fleet τ ω}
    (refused : Refused database b places f g) : g.ledgers = f.ledgers := by
  refine List.ext_getElem? fun j => ?_
  simp only [ledgers, List.getElem?_map]
  exact refused.view_eq Member.accepted accepted_of_error j

theorem Asked.ledgers_eq {places : List Nat} {f g : Fleet τ ω}
    {answers : List (Except ConnectionError Unit)} (asked : Asked places f answers g) :
    g.ledgers = f.ledgers := by
  refine List.ext_getElem? fun j => ?_
  simp only [ledgers, List.getElem?_map]
  exact asked.view_eq Member.accepted (fun s => Ledger.accepted_close s.member.transport s.net) j

theorem ledgers_put (i : Nat) (s : Focus τ ω) (f : Fleet τ ω) :
    (f.put i s).ledgers = f.ledgers.set i s.member.accepted := by
  simp [ledgers, put, List.map_set]

/-- One member of a pool takes a batch, once and alone, or every member refuses it. -/
inductive OnceOrNot (b : Batch) (pool : List Nat) (f : Fleet τ ω) :
    Verdict → Fleet τ ω → Prop where
  | once {i attempts : Nat} {m : Member τ} {g : Fleet τ ω} (member : i ∈ pool)
      (found : f.members[i]? = some m) (first : 1 ≤ attempts) (last : attempts ≤ pool.length)
      (taken : g.ledgers = f.ledgers.set i (b :: m.accepted)) :
      OnceOrNot b pool f (.delivered m.endpoint attempts) g
  | not {g : Fleet τ ω}
      (refused : ∀ i ∈ pool, ∃ m net e, f.members[i]? = some m ∧
        (Transport.write b m.transport net).answer = .error e)
      (untaken : g.ledgers = f.ledgers) :
      OnceOrNot b pool f (.exhausted pool.length pool.length) g

theorem Tried.onceOrNot {database : String} {b : Batch} {pool places : List Nat}
    {f g : Fleet τ ω} {v : Verdict} (tried : Tried database b pool.length 0 places f v g)
    (order : places.Perm pool) (distinct : pool.Nodup) : OnceOrNot b pool f v g := by
  have distinct := order.nodup_iff.mpr distinct
  cases tried with
  | @delivered before after i mid s t split refused there taken =>
    have member : i ∈ places := by simp [split]
    have tries : before.length < pool.length := by
      rw [← order.length_eq, split, List.length_append, List.length_cons]
      omega
    have fresh : i ∉ before := by
      rw [split] at distinct
      obtain ⟨-, -, apart⟩ := List.nodup_append.mp distinct
      exact fun mem => apart i mem i List.mem_cons_self rfl
    have found := (focus?_eq_some.mp there).1
    rw [refused.untouched fresh] at found
    refine .once (order.mem_iff.mp member) found (by omega) (by omega) ?_
    rw [ledgers_put, refused.ledgers_eq, accepted_of_ok taken]
  | exhausted refused =>
    rw [Nat.zero_add, order.length_eq]
    exact .not (fun i mem => refused.refuses distinct (order.mem_iff.mpr mem)) refused.ledgers_eq

end Fleet

end PointRelay
