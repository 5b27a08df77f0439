import PointRelay.Proofs.Fleet.Closing

/-!
# Moves of a pool

A pool of ready members is moved on by dispatching batches to it, by recovering or closing single
members, and by closing them all. Every move is made of attempts, recoveries and closes of single
members, so what these three keep is kept by every run of moves.
-/

namespace PointRelay

/-- What can be asked of a pool. An order may name any places, any number of times. -/
inductive Move where
  | dispatch (database : String) (b : Batch) (order : List Nat)
  | recover (database : String) (i : Nat)
  | close (i : Nat)
  | closeAll

variable {τ ω : Type}

namespace Fleet

/-- The pool of all members. -/
def pool (f : Fleet τ ω) : List Nat := List.range f.members.length

/-- A property holds of every member at its place. -/
def Everywhere (P : Nat → Member τ → Prop) (f : Fleet τ ω) : Prop :=
  ∀ i m, f.members[i]? = some m → P i m

theorem Everywhere.put {P : Nat → Member τ → Prop} {f : Fleet τ ω} {i : Nat} {s : Focus τ ω}
    (all : f.Everywhere P) (here : P i s.member) : (f.put i s).Everywhere P := by
  intro j m found
  by_cases same : j = i
  · subst same
    have place : j < f.members.length := by
      simpa using (List.getElem?_eq_some_iff.mp found).1
    rw [members_put_self place] at found
    exact Option.some.inj found ▸ here
  · rw [members_put_other _ _ same] at found
    exact all j m found

theorem Everywhere.focus {P : Nat → Member τ → Prop} {f : Fleet τ ω} {i : Nat} {s : Focus τ ω}
    (all : f.Everywhere P) (there : f.focus? i = some s) : P i s.member :=
  all i s.member (focus?_eq_some.mp there).1

variable [Transport τ ω]

/-- Members that are all ready. -/
def ready (transports : List τ) (net : ω) : Fleet τ ω :=
  let members := transports.map Member.ready
  ⟨members.map (·.1), net, (members.flatMap (·.2)).reverse⟩

/-- Make a move. -/
def perform (f : Fleet τ ω) : Move → Fleet τ ω
  | .dispatch database b order => (f.dispatch database b f.pool order).2
  | .recover database i => (f.on i (Focus.recover database)).2
  | .close i => (f.on i Focus.close).2
  | .closeAll => (f.closeAll f.pool).2

/-- Make moves one after another. -/
def run (moves : List Move) (f : Fleet τ ω) : Fleet τ ω := moves.foldl perform f

theorem run_append (early late : List Move) (f : Fleet τ ω) :
    f.run (early ++ late) = (f.run early).run late :=
  List.foldl_append

/-- Attempts, recoveries and closes of single members keep a property of a fleet. -/
structure Keeps (R : Fleet τ ω → Prop) : Prop where
  attempt : ∀ {f : Fleet τ ω} {i : Nat} {s : Focus τ ω} (database : String) (b : Batch),
    f.focus? i = some s → R f → R (f.put i (s.attempt database b).2)
  recover : ∀ {f : Fleet τ ω} {i : Nat} {s : Focus τ ω} (database : String),
    f.focus? i = some s → R f → R (f.put i (s.recover database).2)
  /-- Closing may put a note into the journal. -/
  close : ∀ {f : Fleet τ ω} {i : Nat} {s t : Focus τ ω},
    f.focus? i = some s → t.member = s.close.2.member → R f → R (f.put i t)

namespace Keeps

variable {R : Fleet τ ω → Prop} {f : Fleet τ ω}

theorem tryAll (keeps : Keeps R) (database : String) (b : Batch) (poolSize : Nat)
    (places : List Nat) (attempts : Nat) (holds : R f) :
    R (f.tryAll database b poolSize attempts places).2 := by
  induction places generalizing attempts f with
  | nil => exact holds
  | cons i rest ih =>
    rw [Fleet.tryAll]
    cases there : f.focus? i with
    | none => exact ih attempts holds
    | some s =>
      have kept := keeps.attempt database b there holds
      rcases trial : s.attempt database b with ⟨e | ⟨⟩, t⟩
      · rw [trial] at kept
        simp only [trial]
        exact ih (attempts + 1) kept
      · rw [trial] at kept
        simp only [trial]
        exact kept

theorem closeAll (keeps : Keeps R) (places : List Nat) (holds : R f) :
    R (f.closeAll places).2 := by
  induction places generalizing f with
  | nil => exact holds
  | cons i rest ih =>
    cases there : f.focus? i with
    | none =>
      rw [Fleet.closeAll, there]
      exact ih holds
    | some s =>
      rw [closeAll_cons rest there]
      exact ih (keeps.close there (Focus.told_member _ _) holds)

omit [Transport τ ω] in
theorem on {α : Type} {i : Nat} {op : Focus τ ω → α × Focus τ ω}
    (keeps : ∀ {s}, f.focus? i = some s → R f → R (f.put i (op s).2)) (holds : R f) :
    R (f.on i op).2 := by
  rw [Fleet.on]
  cases there : f.focus? i with
  | none => exact holds
  | some s => exact keeps there holds

theorem perform (keeps : Keeps R) (move : Move) (holds : R f) : R (f.perform move) := by
  cases move with
  | dispatch database b order => exact keeps.tryAll database b _ _ 0 holds
  | recover database i => exact Keeps.on (keeps.recover database) holds
  | close i => exact Keeps.on (fun there => keeps.close there rfl) holds
  | closeAll => exact keeps.closeAll _ holds

theorem run (keeps : Keeps R) (moves : List Move) (holds : R f) : R (f.run moves) := by
  induction moves generalizing f with
  | nil => exact holds
  | cons move rest ih => exact ih (keeps.perform move holds)

theorem everywhere {P : Nat → Member τ → Prop}
    (attempt : ∀ database b i (s : Focus τ ω), P i s.member → P i (s.attempt database b).2.member)
    (recover : ∀ database i (s : Focus τ ω), P i s.member → P i (s.recover database).2.member)
    (close : ∀ i (s : Focus τ ω), P i s.member → P i s.close.2.member) :
    Keeps fun f : Fleet τ ω => f.Everywhere P where
  attempt database b there all := all.put (attempt database b _ _ (all.focus there))
  recover database there all := all.put (recover database _ _ (all.focus there))
  close there same all := all.put (same ▸ close _ _ (all.focus there))

end Keeps

/-- Moves take no member in and none out. -/
theorem length_run (moves : List Move) (f : Fleet τ ω) :
    (f.run moves).members.length = f.members.length := by
  have keeps : Keeps fun g : Fleet τ ω => g.members.length = f.members.length :=
    ⟨fun _ _ _ same => (length_put _ _ _).trans same, fun _ _ same => (length_put _ _ _).trans same,
      fun _ _ same => (length_put _ _ _).trans same⟩
  exact keeps.run moves rfl

end Fleet

end PointRelay
