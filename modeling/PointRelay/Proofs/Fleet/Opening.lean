import PointRelay.Proofs.Calls.Safety
import PointRelay.Proofs.Fleet.Logging
import PointRelay.Proofs.Fleet.Requests
import PointRelay.Proofs.Fleet.Story
import PointRelay.Proofs.Output.Database

/-!
# Opening a pool

The endpoints of a pool are opened in their order. Each that can be opened comes to one of two ends:
it joins the pool, or its database could not be created and it is closed and left out. The first
that cannot be opened ends the opening of all.
-/

namespace PointRelay

/-- Transports that are known by the names of the endpoints to which they were opened. -/
class Named (τ : Type) (ω : outParam Type) extends Dial τ ω where
  endpoint_dial (e : Endpoint) (net : ω) (t : τ) :
    (Dial.dial e net).1 = .ok t → Transport.endpoint t = e.name

variable {τ ω : Type}

theorem Datagram.name_dial [Net ω] {e : Endpoint} {payload : Nat} {net : ω} {d : Datagram}
    (dialled : (dial e payload net).1 = .ok d) : d.name = e.name := by
  unfold dial at dialled
  split at dialled
  · cases dialled
  · split at dialled <;> cases dialled
    rfl

theorem Stream.name_dial {e : Endpoint} {credentials : Credentials} {s : Stream}
    (dialled : dial e credentials = .ok s) : s.name = e.name := by
  unfold dial at dialled
  split at dialled <;> cases dialled
  rfl

instance [Net ω] : Named (Connection ω) ω where
  endpoint_dial e net c dialled := by
    change (Connection.dial e net).1 = .ok c at dialled
    unfold Connection.dial at dialled
    cases kind : e.kind with
    | datagram payload =>
      rw [kind] at dialled
      obtain ⟨d, found, rfl⟩ := exists_of_map_eq_ok dialled
      exact Datagram.name_dial found
    | stream credentials =>
      rw [kind] at dialled
      obtain ⟨s, made, rfl⟩ := exists_of_map_eq_ok dialled
      exact Stream.name_dial made

instance [Named τ ω] : Named (Marked τ) (Logged ω) where
  endpoint_dial e net t dialled := by
    obtain ⟨u, found, rfl⟩ := exists_of_map_eq_ok dialled
    exact Named.endpoint_dial e net.net u found

/-- An endpoint that was opened, with the answers to the creation of its database and to its close,
as far as it was asked for them. -/
structure Opened where
  endpoint : Endpoint
  created : Except ConnectionError Unit
  closed : Except ConnectionError Unit

namespace Opened

/-- Datagram endpoints join the pool, and stream endpoints with a database do. -/
def joins (o : Opened) : Bool :=
  match o.endpoint.kind, o.created with
  | .datagram _, _ => true
  | .stream _, .ok () => true
  | .stream _, .error (.alreadyExists _ _) => true
  | .stream _, .error _ => false

/-- What is asked of an endpoint once it is open, oldest first: the creation of its database if it
is a stream endpoint, and to be closed if it does not join. -/
def visit (database : String) (mark : Nat) (o : Opened) : List Entry :=
  match o.endpoint.kind with
  | .datagram _ => []
  | .stream _ =>
    ⟨mark, .create database, o.created⟩ :: if o.joins then [] else [⟨mark, .close, o.closed⟩]

def entries (database : String) (mark : Nat) (o : Opened) : List Entry :=
  ⟨mark, .dial o.endpoint, .ok ()⟩ :: o.visit database mark

/-- What is asked while endpoints are opened that are numbered from `start`, oldest first. -/
def log (database : String) (start : Nat) (opened : List Opened) : List Entry :=
  (opened.zipIdx start).flatMap fun (o, mark) => o.entries database mark

/-- The members of a pool are those that join, in order, each ready and with nothing counted. -/
structure Pool (start : Nat) (opened : List Opened) (ms : List (Member (Marked τ))) : Prop where
  marks : ms.map (fun m => m.transport.mark) =
    ((opened.zipIdx start).filter fun o => o.1.joins).map Prod.snd
  endpoints : ms.map (fun m => m.endpoint) =
    (opened.filter Opened.joins).map fun o => o.endpoint.name
  ready : ∀ m ∈ ms, m.phase = .ready ∧ m.counters = .zero

theorem dials_visit (database : String) (mark : Nat) (o : Opened) :
    (o.visit database mark).countP Entry.isDial = 0 := by
  unfold visit
  split
  · rfl
  · split <;> rfl

theorem dials_entries (database : String) (mark : Nat) (o : Opened) :
    (o.entries database mark).countP Entry.isDial = 1 := by
  rw [entries, List.countP_cons_of_pos rfl, dials_visit]

theorem log_cons (database : String) (start : Nat) (o : Opened) (rest : List Opened) :
    log database start (o :: rest) = o.entries database start ++ log database (start + 1) rest := by
  rw [log, List.zipIdx_cons, List.flatMap_cons, log]

theorem Pool.cons {start : Nat} {o : Opened} {rest : List Opened} {m : Member (Marked τ)}
    {ms : List (Member (Marked τ))} (pool : Pool (start + 1) rest ms)
    (mark : m.transport.mark = start) (endpoint : m.endpoint = o.endpoint.name)
    (ready : o.joins = true → m.phase = .ready) (counters : m.counters = .zero) :
    Pool start (o :: rest) (if o.joins then m :: ms else ms) := by
  cases joins : o.joins with
  | true =>
    refine ⟨?_, ?_, ?_⟩
    · simp [joins, mark, pool.marks]
    · simp [joins, endpoint, pool.endpoints]
    · exact List.forall_mem_cons.mpr ⟨⟨ready joins, counters⟩, pool.ready⟩
  | false =>
    refine ⟨?_, ?_, pool.ready⟩
    · simp [joins, pool.marks]
    · simp [joins, pool.endpoints]

theorem joins_of_stream {o : Opened} {credentials : Credentials}
    (stream : o.endpoint.kind = .stream credentials) :
    o.joins = (Focus.ensured o.created).isOk := by
  unfold joins Focus.ensured
  rw [stream]
  rcases o.created with e | ⟨⟩
  · cases e <;> rfl
  · rfl

end Opened

namespace Resolver

variable [Dial τ ω]

/-- What a release asks, and what it leaves. -/
theorem release_logged (s : Focus (Marked τ) (Logged ω)) :
    (release s).net.log = ⟨s.member.transport.mark, .close, s.close.1⟩ :: s.net.log ∧
      (release s).member = s.close.2.member := by
  have asked : s.close.2.net.log =
      ⟨s.member.transport.mark, .close, s.close.1⟩ :: s.net.log := rfl
  unfold release
  rcases closed : s.close with ⟨e | ⟨⟩, t⟩ <;> rw [closed] at asked <;> exact ⟨asked, rfl⟩

/-- What a vetting asks, and what it leaves. -/
theorem exists_visit (database : String) (e : Endpoint) (s : Focus (Marked τ) (Logged ω)) :
    ∃ o : Opened, o.endpoint = e ∧ (vet database e s).1 = o.joins ∧
      (vet database e s).2.net.log =
        (o.visit database s.member.transport.mark).reverse ++ s.net.log ∧
      (vet database e s).2.member.transport.mark = s.member.transport.mark ∧
      (vet database e s).2.member.endpoint = s.member.endpoint ∧
      (vet database e s).2.member.counters = s.member.counters := by
  cases kind : e.kind with
  | datagram payload =>
    have vetted : vet database e s = (true, s.move .ready) := by rw [vet, kind]
    refine ⟨⟨e, .ok (), .ok ()⟩, rfl, ?_⟩
    simp [vetted, Opened.joins, Opened.visit, kind, Focus.move_counters]
  | stream credentials =>
    have asked : (s.create database).2.net.log =
        ⟨s.member.transport.mark, .create database, (s.create database).1⟩ :: s.net.log := rfl
    cases ensured : Focus.ensured (s.create database).1 with
    | ok =>
      have vetted : vet database e s = (true, (s.create database).2.move .ready) := by
        rw [vet, kind]
        simp only [Focus.ensure, ensured]
      let o : Opened := ⟨e, (s.create database).1, .ok ()⟩
      have joins : o.joins = true := by
        rw [Opened.joins_of_stream (o := o) kind, ensured]
        rfl
      have visit : o.visit database s.member.transport.mark =
          [⟨s.member.transport.mark, .create database, (s.create database).1⟩] := by
        simp only [Opened.visit, o, kind]
        rw [if_pos joins]
      refine ⟨o, rfl, ?_, ?_, ?_, ?_, ?_⟩
      · rw [vetted, joins]
      · rw [vetted, visit, Focus.move_net]
        exact asked
      · rw [vetted, Focus.move_transport]
        rfl
      · rw [vetted, Focus.move_endpoint]
        rfl
      · rw [vetted, Focus.move_counters]
        rfl
    | error why =>
      let t := (s.create database).2.note (.excluded e.name database why)
      have vetted : vet database e s = (false, release t) := by
        rw [vet, kind]
        simp only [Focus.ensure, ensured, t]
      let o : Opened := ⟨e, (s.create database).1, t.close.1⟩
      have joins : o.joins = false := by
        rw [Opened.joins_of_stream (o := o) kind, ensured]
        rfl
      have visit : o.visit database s.member.transport.mark =
          [⟨s.member.transport.mark, .create database, (s.create database).1⟩,
            ⟨s.member.transport.mark, .close, t.close.1⟩] := by
        simp only [Opened.visit, o, kind]
        rw [if_neg (by simp [o, joins])]
      obtain ⟨closed, left⟩ := release_logged t
      refine ⟨o, rfl, ?_, ?_, ?_, ?_, ?_⟩
      · rw [vetted, joins]
      · rw [vetted, visit, closed]
        exact congrArg _ asked
      all_goals
        rw [vetted, left]
        rfl

/-- What is dialled for the log is what would be dialled without it. -/
theorem dial_unlogged {e : Endpoint} {net left : Logged ω}
    {answer : Except ConnectionError (Marked τ)} (dialled : Dial.dial e net = (answer, left)) :
    Dial.dial e net.net = (answer.map Marked.transport, left.net) := by
  obtain ⟨rfl, rfl⟩ := Prod.mk.inj dialled
  rcases (Dial.dial e net.net : Except ConnectionError τ × ω) with ⟨why | t, after⟩ <;> rfl

/-- What a dialling enters into the log. -/
theorem dial_logged {e : Endpoint} {net left : Logged ω}
    {answer : Except ConnectionError (Marked τ)} (dialled : Dial.dial e net = (answer, left)) :
    left.log = ⟨net.dials, .dial e, answer.map fun _ => ()⟩ :: net.log ∧
      ∀ t, answer = .ok t → t.mark = net.dials := by
  obtain ⟨rfl, rfl⟩ := Prod.mk.inj dialled
  constructor
  · show _ :: net.log = _
    cases (Dial.dial e net.net : Except ConnectionError τ × ω).1 <;> rfl
  · intro t made
    obtain ⟨u, -, rfl⟩ := exists_of_map_eq_ok made
    rfl

/-- How the opening of endpoints that are numbered from `start` ends, and what it asks. -/
inductive Ends (database : String) (start : Nat) (endpoints : List Endpoint) :
    Except OutputError (List (Member (Marked τ))) → List Entry → Prop where
  | built {opened : List Opened} {ms : List (Member (Marked τ))}
      (all : opened.map Opened.endpoint = endpoints) (pool : Opened.Pool start opened ms) :
      Ends database start endpoints (.ok ms) (Opened.log database start opened)
  | failed {opened : List Opened} {e : Endpoint} {after : List Endpoint} {source : ConnectionError}
      (order : endpoints = opened.map Opened.endpoint ++ e :: after) :
      Ends database start endpoints (.error (.connect e.name source))
        (Opened.log database start opened ++ [⟨start + opened.length, .dial e, .error source⟩])

omit [Dial τ ω] in
/-- One more endpoint before the others. -/
theorem Ends.cons {database : String} {start : Nat} {rest : List Endpoint} {o : Opened}
    {m : Member (Marked τ)} {answer : Except OutputError (List (Member (Marked τ)))}
    {log : List Entry} (ends : Ends database (start + 1) rest answer log)
    (mark : m.transport.mark = start) (endpoint : m.endpoint = o.endpoint.name)
    (ready : o.joins = true → m.phase = .ready) (counters : m.counters = .zero) :
    Ends database start (o.endpoint :: rest)
      (answer.map fun ms => if o.joins then m :: ms else ms) (o.entries database start ++ log) := by
  cases ends with
  | @built opened ms all pool =>
    rw [← Opened.log_cons]
    exact .built (by rw [List.map_cons, all]) (pool.cons mark endpoint ready counters)
  | @failed opened e after source order =>
    have count : start + 1 + opened.length = start + (o :: opened).length := by
      rw [List.length_cons]
      omega
    rw [← List.append_assoc, ← Opened.log_cons, count]
    exact .failed (by rw [order, List.map_cons, List.cons_append])

end Resolver

namespace Resolver

variable [Named τ ω]

theorem ends_openAll (database : String) (endpoints : List Endpoint) (net : Logged ω)
    (notes : Journal) :
    ∃ log, Ends database net.dials endpoints
        (openAll (τ := Marked τ) database endpoints net notes).1 log ∧
      (openAll (τ := Marked τ) database endpoints net notes).2.1.log = log.reverse ++ net.log := by
  induction endpoints generalizing net notes with
  | nil =>
    have none : ([] : List Opened).map Opened.endpoint = [] := rfl
    exact ⟨[], .built none ⟨rfl, rfl, fun _ mem => nomatch mem⟩, rfl⟩
  | cons e rest ih =>
    rcases dialled : (Dial.dial e net : Except ConnectionError (Marked τ) × Logged ω)
      with ⟨source | t, left⟩
    · obtain ⟨asked, -⟩ := dial_logged dialled
      rw [openAll_of_error dialled]
      have first : e :: rest = ([] : List Opened).map Opened.endpoint ++ e :: rest := rfl
      exact ⟨_, .failed first, asked⟩
    · obtain ⟨asked, marked⟩ := dial_logged dialled
      have mark : t.mark = net.dials := marked t rfl
      have name : Transport.endpoint t = e.name :=
        Named.endpoint_dial e net t (congrArg Prod.fst dialled)
      let fresh : Focus (Marked τ) (Logged ω) := ⟨Member.new t, left, notes⟩
      obtain ⟨o, rfl, joins, visited, kept, endpoint, counters⟩ := exists_visit database e fresh
      let vetted := vet database o.endpoint fresh
      have log : vetted.2.net.log = (o.entries database net.dials).reverse ++ net.log := by
        rw [visited, Opened.entries, List.reverse_cons, List.append_assoc, ← mark]
        exact congrArg _ (mark ▸ asked)
      have dials : vetted.2.net.dials = net.dials + 1 := by
        rw [Logged.dials, log, List.countP_append, List.countP_reverse, Opened.dials_entries,
          Nat.add_comm]
        rfl
      obtain ⟨later, ends, behind⟩ := ih vetted.2.net vetted.2.journal
      rw [dials] at ends
      rw [openAll_of_ok dialled]
      refine ⟨o.entries database net.dials ++ later, ?_, ?_⟩
      · have ready : o.joins = true → vetted.2.member.phase = .ready := fun joined =>
          vet_ready database rfl (joins.trans joined)
        have added := ends.cons (kept.trans mark) (endpoint.trans name) ready counters
        rwa [← joins] at added
      · show (openAll database rest vetted.2.net vetted.2.journal).2.1.log = _
        rw [behind, log, List.reverse_append, List.append_assoc]

end Resolver

namespace Projection

variable {σ ψ : Type} [Dial σ ψ] [Dial τ ω] {f : σ → τ} {g : ψ → ω} (seen : Projection f g)
include seen

theorem release (s : Focus σ ψ) :
    Resolver.release (s.map f g) = (Resolver.release s).map f g := by
  rw [Resolver.release, Resolver.release, seen.closed]
  rcases s.close with ⟨e | ⟨⟩, t⟩ <;> rfl

theorem vet (database : String) (e : Endpoint) (s : Focus σ ψ) :
    Resolver.vet database e (s.map f g) =
      ((Resolver.vet database e s).1, (Resolver.vet database e s).2.map f g) := by
  unfold Resolver.vet
  cases e.kind with
  | datagram payload => simp only [Focus.map_move]
  | stream credentials =>
    simp only [seen.ensure]
    rcases s.ensure database with ⟨why | ⟨⟩, t⟩
    · simp only [← Focus.map_note, seen.release]
    · simp only [Focus.map_move]

theorem openAll (dial : ∀ (e : Endpoint) (net : ψ) (answer : Except ConnectionError σ) (left : ψ),
      Dial.dial e net = (answer, left) → Dial.dial e (g net) = (answer.map f, g left))
    (database : String) (endpoints : List Endpoint) (net : ψ) (notes : Journal) :
    (Resolver.openAll database endpoints (g net) notes :
        Except OutputError (List (Member τ)) × ω × Journal) =
      let opened := Resolver.openAll database endpoints net notes
      (opened.1.map (List.map (Member.map f)), g opened.2.1, opened.2.2) := by
  induction endpoints generalizing net notes with
  | nil => rfl
  | cons e rest ih =>
    rcases dialled : (Dial.dial e net : Except ConnectionError σ × ψ) with ⟨source | t, left⟩
    · have also : Dial.dial e (g net) = (.error source, g left) := dial e net _ left dialled
      rw [Resolver.openAll_of_error dialled, Resolver.openAll_of_error also]
      rfl
    · have also : Dial.dial e (g net) = (.ok (f t), g left) := dial e net _ left dialled
      have fresh : (⟨Member.new (f t), g left, notes⟩ : Focus τ ω) =
          (⟨Member.new t, left, notes⟩ : Focus σ ψ).map f g := by
        simp only [Member.new, seen.endpoint]
        rfl
      rw [Resolver.openAll_of_ok dialled, Resolver.openAll_of_ok also, fresh, seen.vet]
      rcases Resolver.vet database e (⟨Member.new t, left, notes⟩ : Focus σ ψ) with ⟨joins, s⟩
      have later := ih s.net s.journal
      rcases opened : (Resolver.openAll database rest s.net s.journal :
        Except OutputError (List (Member σ)) × ψ × Journal) with ⟨why | ms, last, told⟩ <;>
        rw [opened] at later
      · simp only [Focus.map, later, opened]
        rfl
      · simp only [Focus.map, later, opened]
        cases joins <;> rfl

end Projection

namespace Resolver

variable [Named τ ω]

/-- The opening of a pool, looked at with a log of all that is asked. Either every endpoint is
opened, and the pool has as its members, in order, those that join, ready and with nothing counted;
or the opening ends with the first endpoint that cannot be opened. Of the endpoints that were opened
each stream endpoint was asked once for the creation of the database and no datagram endpoint was,
and those and only those that did not join were asked to close, once. -/
theorem build_opens_in_order (r : Resolver τ) (net : ω) :
    let built := r.build net
    let watched := (⟨r.database, r.endpoints⟩ : Resolver (Marked τ)).build (.fresh net)
    built.answer = watched.answer.map (List.map (Member.map Marked.transport)) ∧
    built.net = watched.net.net ∧ built.notes = watched.notes ∧
    Ends r.database 0 r.endpoints watched.answer watched.net.log.reverse := by
  intro built watched
  have looked := (Marked.projection (τ := τ) (ω := ω)).openAll (fun _ _ _ _ => dial_unlogged)
    r.database r.endpoints (Logged.fresh net) []
  obtain ⟨log, ends, asked⟩ := ends_openAll (τ := τ) r.database r.endpoints (.fresh net) []
  refine ⟨congrArg (fun x => x.1) looked, congrArg (fun x => x.2.1) looked,
    congrArg (fun x => x.2.2) looked, ?_⟩
  have same : watched.net.log.reverse = log := by
    rw [show watched.net.log = log.reverse ++ [] from asked, List.append_nil, List.reverse_reverse]
  rw [same]
  exact ends

end Resolver

end PointRelay
