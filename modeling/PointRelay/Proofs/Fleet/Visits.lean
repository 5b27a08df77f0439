import PointRelay.Proofs.Fleet.Moves

/-!
# Visits of members

A pool is moved on, and now and then the database of a member is made sure of. All that comes of it
is visits: one member at a time is attempted, recovered, made sure of or closed, and nothing else
touches the network or a member. The visits of a run are listed in order with the state that each of
them found, and they lead from the first state of the run to its last.
-/

namespace PointRelay

/-- What is done to a member. -/
inductive Act where
  | attempt (database : String) (b : Batch)
  | recover (database : String)
  | ensure (database : String)
  | close

/-- A move of a pool, or making sure of the database of a member. -/
inductive Turn where
  | move (m : Move)
  | ensure (database : String) (i : Nat)

variable {τ ω : Type}

/-- A member is visited. -/
structure Visit (τ ω : Type) where
  place : Nat
  act : Act
  before : Focus τ ω

variable [Transport τ ω]

def Act.run : Act → Focus τ ω → Except ConnectionError Unit × Focus τ ω
  | .attempt database b => Focus.attempt database b
  | .recover database => Focus.recover database
  | .ensure database => Focus.ensure database
  | .close => Focus.close

namespace Visit

def answer (x : Visit τ ω) : Except ConnectionError Unit := (x.act.run x.before).1

def after (x : Visit τ ω) : Focus τ ω := (x.act.run x.before).2

end Visit

namespace Fleet

/-- The visit of one member, if there is one at the place. -/
def visit (i : Nat) (act : Act) (f : Fleet τ ω) : List (Visit τ ω) :=
  ((f.focus? i).map fun s => ⟨i, act, s⟩).toList

/-- The visits of a dispatch, which ends at the first member that takes the batch. -/
def trials (database : String) (b : Batch) : List Nat → Fleet τ ω → List (Visit τ ω)
  | [], _ => []
  | i :: rest, f =>
    match f.focus? i with
    | none => trials database b rest f
    | some s =>
      ⟨i, .attempt database b, s⟩ ::
        match s.attempt database b with
        | (.ok (), _) => []
        | (.error _, t) => trials database b rest (f.put i t)

/-- The visits of a closing of many members. -/
def closings : List Nat → Fleet τ ω → List (Visit τ ω)
  | [], _ => []
  | i :: rest, f =>
    match f.focus? i with
    | none => closings rest f
    | some s => ⟨i, .close, s⟩ :: closings rest (f.put i s.close.2)

def turn (f : Fleet τ ω) : Turn → Fleet τ ω
  | .move m => f.perform m
  | .ensure database i => (f.on i (Focus.ensure database)).2

/-- Take turns one after another. -/
def turns (ts : List Turn) (f : Fleet τ ω) : Fleet τ ω := ts.foldl turn f

/-- The visits of a turn. -/
def visits (f : Fleet τ ω) : Turn → List (Visit τ ω)
  | .move (.dispatch database b order) => f.trials database b (order.filterMap fun k => f.pool[k]?)
  | .move (.recover database i) => f.visit i (.recover database)
  | .move (.close i) => f.visit i .close
  | .move .closeAll => f.closings f.pool
  | .ensure database i => f.visit i (.ensure database)

/-- The visits of turns one after another, oldest first. -/
def journey : List Turn → Fleet τ ω → List (Visit τ ω)
  | [], _ => []
  | t :: rest, f => f.visits t ++ journey rest (f.turn t)

/-- Visits lead from one state of a fleet to another: each of them finds the member at its place,
the network and the journal as the one before it left them. -/
inductive Leads : Fleet τ ω → List (Visit τ ω) → Fleet τ ω → Prop where
  | nil (f : Fleet τ ω) : Leads f [] f
  | cons {f g : Fleet τ ω} {x : Visit τ ω} {rest : List (Visit τ ω)}
      (there : f.focus? x.place = some x.before) (later : Leads (f.put x.place x.after) rest g) :
      Leads f (x :: rest) g

theorem journey_append (early late : List Turn) (f : Fleet τ ω) :
    f.journey (early ++ late) = f.journey early ++ (f.turns early).journey late := by
  induction early generalizing f with
  | nil => rfl
  | cons t rest ih =>
    rw [List.cons_append, journey, ih, journey, List.append_assoc]
    rfl

namespace Leads

variable {f g h : Fleet τ ω} {xs ys : List (Visit τ ω)}

theorem trans (first : Leads f xs g) (second : Leads g ys h) : Leads f (xs ++ ys) h := by
  induction first with
  | nil => exact second
  | cons there _ ih => exact .cons there (ih second)

/-- Every visit was led to, and leads on. -/
theorem split {x : Visit τ ω} (leads : Leads f (xs ++ x :: ys) h) :
    ∃ g, Leads f xs g ∧ g.focus? x.place = some x.before ∧
      Leads (g.put x.place x.after) ys h := by
  induction xs generalizing f with
  | nil =>
    cases leads with
    | cons there later => exact ⟨f, .nil f, there, later⟩
  | cons y xs ih =>
    cases leads with
    | cons there later =>
      obtain ⟨g, early, found, late⟩ := ih later
      exact ⟨g, .cons there early, found, late⟩

/-- What every visit keeps of the members at their places, visits one after another keep. -/
theorem everywhere {P : Nat → Member τ → Prop}
    (kept : ∀ x : Visit τ ω, P x.place x.before.member → P x.place x.after.member)
    (leads : Leads f xs g) (all : f.Everywhere P) : g.Everywhere P := by
  induction leads with
  | nil => exact all
  | @cons f g x rest there _ ih => exact ih (all.put (kept x (all.focus there)))

theorem length_eq (leads : Leads f xs g) : g.members.length = f.members.length := by
  induction leads with
  | nil => rfl
  | cons _ _ ih => rw [ih, length_put]

end Leads

theorem leads_visit (i : Nat) (act : Act) (f : Fleet τ ω) :
    Leads f (f.visit i act) (f.on i act.run).2 := by
  rw [visit, on]
  cases there : f.focus? i with
  | none => exact .nil f
  | some s => exact .cons there (.nil _)

theorem leads_trials (database : String) (b : Batch) (poolSize : Nat) (places : List Nat)
    (attempts : Nat) (f : Fleet τ ω) :
    Leads f (f.trials database b places) (f.tryAll database b poolSize attempts places).2 := by
  induction places generalizing attempts f with
  | nil => exact .nil f
  | cons i rest ih =>
    rw [trials, tryAll]
    cases there : f.focus? i with
    | none => exact ih attempts f
    | some s =>
      have after : (⟨i, .attempt database b, s⟩ : Visit τ ω).after = (s.attempt database b).2 := rfl
      rcases trial : s.attempt database b with ⟨e | ⟨⟩, t⟩
      · simp only [trial]
        refine .cons there ?_
        rw [after, trial]
        exact ih (attempts + 1) (f.put i t)
      · simp only [trial]
        refine .cons there ?_
        rw [after, trial]
        exact .nil _

/-- Where no close fails, there is nothing to note but the visits themselves. -/
theorem leads_closings (closes : ∀ s : Focus τ ω, s.close.1 = .ok ()) (places : List Nat)
    (f : Fleet τ ω) : Leads f (f.closings places) (f.closeAll places).2 := by
  induction places generalizing f with
  | nil => exact .nil f
  | cons i rest ih =>
    cases there : f.focus? i with
    | none =>
      rw [closings, closeAll, there]
      exact ih f
    | some s =>
      rw [closeAll_cons rest there, closings, there, closes s]
      exact .cons there (ih (f.put i s.close.2))

theorem leads_turn (closes : ∀ s : Focus τ ω, s.close.1 = .ok ()) (t : Turn) (f : Fleet τ ω) :
    Leads f (f.visits t) (f.turn t) := by
  cases t with
  | move m =>
    cases m with
    | dispatch database b order => exact leads_trials database b _ _ 0 f
    | recover database i => exact leads_visit i (.recover database) f
    | close i => exact leads_visit i .close f
    | closeAll => exact leads_closings closes f.pool f
  | ensure database i => exact leads_visit i (.ensure database) f

theorem leads_turns (closes : ∀ s : Focus τ ω, s.close.1 = .ok ()) (ts : List Turn)
    (f : Fleet τ ω) : Leads f (f.journey ts) (f.turns ts) := by
  induction ts generalizing f with
  | nil => exact .nil f
  | cons t rest ih => exact (leads_turn closes t f).trans (ih (f.turn t))

end Fleet

end PointRelay
