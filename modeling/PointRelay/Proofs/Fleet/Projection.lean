import PointRelay.Proofs.Fleet.Closing

/-!
# Projections

Transports that carry more than others, over a network that carries more than another, are looked at
through a projection when every operation on them comes to the same. Then members, fleets and
dispatches come to the same as well: what is put beside the transports and the network to watch them
never changes what they do.
-/

namespace PointRelay

variable {σ τ ψ ω : Type}

namespace Effect

def map (f : σ → τ) (g : ψ → ω) (e : Effect σ ψ) : Effect τ ω :=
  ⟨e.answer, f e.transport, g e.net⟩

end Effect

/-- Every operation comes to the same when transports are seen through `f` and networks through
`g`. -/
structure Projection [Transport σ ψ] [Transport τ ω] (f : σ → τ) (g : ψ → ω) : Prop where
  endpoint (t : σ) : Transport.endpoint (f t) = Transport.endpoint t
  write (b : Batch) (t : σ) (net : ψ) :
    Transport.write b (f t) (g net) = (Transport.write b t net).map f g
  create (database : String) (t : σ) (net : ψ) :
    Transport.create database (f t) (g net) = (Transport.create database t net).map f g
  close (t : σ) (net : ψ) : Transport.close (f t) (g net) = (Transport.close t net).map f g

def Member.map (f : σ → τ) (m : Member σ) : Member τ :=
  ⟨m.endpoint, f m.transport, m.phase, m.counters⟩

namespace Focus

def map (f : σ → τ) (g : ψ → ω) (s : Focus σ ψ) : Focus τ ω :=
  ⟨s.member.map f, g s.net, s.journal⟩

variable (f : σ → τ) (g : ψ → ω)

@[simp] theorem map_endpoint (s : Focus σ ψ) :
    (s.map f g).member.endpoint = s.member.endpoint := rfl

@[simp] theorem map_note (n : Note) (s : Focus σ ψ) :
    (s.note n).map f g = (s.map f g).note n := rfl

@[simp] theorem map_count (c : Counters → Counters) (s : Focus σ ψ) :
    (s.count c).map f g = (s.map f g).count c := rfl

@[simp] theorem map_move (next : Phase) (s : Focus σ ψ) :
    (s.move next).map f g = (s.map f g).move next := by
  rw [move, apply_ite (map f g)]
  rfl

@[simp] theorem map_restore (s : Focus σ ψ) : s.restore.map f g = (s.map f g).restore := by
  rw [restore, apply_ite (map f g), map_move]
  rfl

@[simp] theorem map_settle (database : String) (answer : Except ConnectionError Unit)
    (s : Focus σ ψ) : (s.settle database answer).map f g = (s.map f g).settle database answer := by
  cases answer <;> simp [settle]

/-- An operation of the transport comes to the same when its effect does. -/
theorem map_operate {f : σ → τ} {g : ψ → ω} {op : σ → ψ → Effect σ ψ} {op' : τ → ω → Effect τ ω}
    (same : ∀ t net, op' (f t) (g net) = (op t net).map f g) (s : Focus σ ψ) :
    (s.map f g).operate op' = ((s.operate op).1, (s.operate op).2.map f g) := by
  have effect := same s.member.transport s.net
  simp only [operate, map, Member.map, effect]
  rfl

theorem map_told (answer : Except ConnectionError Unit) (s : Focus σ ψ) :
    (s.told answer).map f g = (s.map f g).told answer := by
  cases answer <;> rfl

end Focus

namespace Fleet

def map (f : σ → τ) (g : ψ → ω) (h : Fleet σ ψ) : Fleet τ ω :=
  ⟨h.members.map (Member.map f), g h.net, h.journal⟩

variable (f : σ → τ) (g : ψ → ω)

theorem map_focus? (i : Nat) (h : Fleet σ ψ) :
    (h.map f g).focus? i = (h.focus? i).map (Focus.map f g) := by
  simp only [focus?, map, List.getElem?_map, Option.map_map]
  rfl

theorem map_put (i : Nat) (s : Focus σ ψ) (h : Fleet σ ψ) :
    (h.put i s).map f g = (h.map f g).put i (s.map f g) := by
  simp [put, map, Focus.map, List.map_set]

theorem map_on {α : Type} {op : Focus σ ψ → α × Focus σ ψ} {op' : Focus τ ω → α × Focus τ ω}
    (same : ∀ s, op' (s.map f g) = ((op s).1, (op s).2.map f g)) (i : Nat) (h : Fleet σ ψ) :
    (h.on i op).2.map f g = ((h.map f g).on i op').2 := by
  rw [on, on, map_focus?]
  cases h.focus? i with
  | none => rfl
  | some s => simp only [Option.map_some, same, map_put]

end Fleet

namespace Projection

variable [Transport σ ψ] [Transport τ ω] {f : σ → τ} {g : ψ → ω}

variable (seen : Projection f g)
include seen

theorem written (b : Batch) (s : Focus σ ψ) :
    (s.map f g).written b = (s.written b).map f g := seen.write b _ _

theorem handed (b : Batch) (s : Focus σ ψ) :
    (s.map f g).write b = ((s.write b).1, (s.write b).2.map f g) :=
  s.map_operate (seen.write b)

theorem ensure (database : String) (s : Focus σ ψ) :
    (s.map f g).ensure database = ((s.ensure database).1, (s.ensure database).2.map f g) := by
  have created : (s.map f g).create database =
      ((s.create database).1, (s.create database).2.map f g) :=
    s.map_operate (seen.create database)
  rw [Focus.ensure, Focus.ensure, created]

theorem closed (s : Focus σ ψ) : (s.map f g).close = (s.close.1, s.close.2.map f g) := by
  have closed := s.map_operate seen.close
  rw [Focus.close, Focus.close, closed]
  rfl

theorem recover (database : String) (s : Focus σ ψ) :
    (s.map f g).recover database = ((s.recover database).1, (s.recover database).2.map f g) := by
  simp only [Focus.recover, ← Focus.map_move, seen.ensure, Focus.map_settle]

theorem attempt (database : String) (b : Batch) (s : Focus σ ψ) :
    (s.map f g).attempt database b =
      ((s.attempt database b).1, (s.attempt database b).2.map f g) := by
  rw [Focus.attempt, Focus.attempt, seen.handed]
  rcases s.write b with ⟨e | ⟨⟩, t⟩
  · have failed : (t.map f g).fail e = (t.fail e).map f g := rfl
    simp only [failed, seen.recover]
    split <;> rfl
  · have succeeded : (t.map f g).succeed = t.succeed.map f g := rfl
    simp only [succeeded, Focus.map_restore]

theorem tryAll (database : String) (b : Batch) (poolSize : Nat) (places : List Nat)
    (attempts : Nat) (h : Fleet σ ψ) :
    (h.map f g).tryAll database b poolSize attempts places =
      ((h.tryAll database b poolSize attempts places).1,
        (h.tryAll database b poolSize attempts places).2.map f g) := by
  induction places generalizing attempts h with
  | nil => rfl
  | cons i rest ih =>
    rw [Fleet.tryAll, Fleet.tryAll, Fleet.map_focus?]
    cases h.focus? i with
    | none => exact ih attempts h
    | some s =>
      simp only [Option.map_some, seen.attempt]
      rcases s.attempt database b with ⟨e | ⟨⟩, t⟩
      · simp only [← Fleet.map_put, ih]
      · simp only [← Fleet.map_put, Focus.map_endpoint]

theorem dispatch (database : String) (b : Batch) (pool order : List Nat) (h : Fleet σ ψ) :
    (h.map f g).dispatch database b pool order =
      ((h.dispatch database b pool order).1, (h.dispatch database b pool order).2.map f g) :=
  seen.tryAll database b pool.length _ 0 h

theorem closeAll (places : List Nat) (h : Fleet σ ψ) :
    (h.map f g).closeAll places = ((h.closeAll places).1, (h.closeAll places).2.map f g) := by
  induction places generalizing h with
  | nil => rfl
  | cons i rest ih =>
    -- Both sides ask about the same place, so both find a member there or neither does.
    cases there : h.focus? i with
    | none =>
      have gone : (h.map f g).focus? i = none := by
        rw [Fleet.map_focus?, there, Option.map_none]
      rw [Fleet.closeAll, Fleet.closeAll, there, gone]
      exact ih h
    | some s =>
      have still : (h.map f g).focus? i = some (s.map f g) := by
        rw [Fleet.map_focus?, there, Option.map_some]
      rw [Fleet.closeAll_cons rest there, Fleet.closeAll_cons rest still, seen.closed]
      dsimp only
      rw [← Focus.map_told, ← Fleet.map_put, ih]

end Projection

end PointRelay
