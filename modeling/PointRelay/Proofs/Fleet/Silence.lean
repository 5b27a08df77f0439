import PointRelay.Connection
import PointRelay.Net.Loopback
import PointRelay.Proofs.Fleet.Phases
import PointRelay.Proofs.Fleet.Visits

/-!
# Closed connections are silent

A connection keeps a mark of its own that it was closed, and its member the phase; no dispatch looks
at either. From the visit on that closes a member both are set, and each later visit finds them and
leaves them so. The connection then refuses by itself whatever is asked of it, before it comes to
the network.
-/

namespace PointRelay

variable {ω : Type}

/-! ## What a closed connection answers -/

namespace Connection

def IsClosed : Connection ω → Prop
  | datagram d => d.closed = true
  | stream s => s.closed = true

/-- Why a closed connection creates no database: datagrams never do. -/
def denial : Connection ω → ConnectionError
  | datagram d => .unsupported d.name "database creation"
  | stream s => .closed s.name

theorem isClosed_close (c : Connection ω) (net : ω) : (c.close net).transport.IsClosed := by
  cases c <;> rfl

theorem close_closed {c : Connection ω} (closed : c.IsClosed) (net : ω) :
    c.close net = ⟨.ok (), c, net⟩ := by
  cases c with
  | datagram d =>
    obtain ⟨name, address, payload, _⟩ := d
    cases closed
    rfl
  | stream s =>
    obtain ⟨name, writeUrl, queryUrl, userAgent, credentials, timeout, _⟩ := s
    cases closed
    rfl

variable [Net ω]

theorem write_closed {c : Connection ω} (closed : c.IsClosed) (b : Batch) (net : ω) :
    c.write b net = ⟨.error (.closed c.name), c, net⟩ := by
  cases c with
  | datagram d =>
    have refused : d.write b net = (.error (.closed d.name), net) := if_pos closed
    simp only [write, refused, name]
  | stream s =>
    have refused : s.write b net = (.error (.closed s.name), net) := if_pos closed
    simp only [write, refused, name]

theorem create_closed {c : Connection ω} (closed : c.IsClosed) (database : String) (net : ω) :
    c.create database net = ⟨.error c.denial, c, net⟩ := by
  cases c with
  | datagram d => rfl
  | stream s =>
    have refused : s.create database net = (.error (.closed s.name), net) := if_pos closed
    simp only [create, refused, denial]

end Connection

/-! ## What becomes of a closed member -/

/-- A member that was closed, with its connection. -/
structure Member.Shut (m : Member (Connection ω)) : Prop where
  phase : m.phase = .closed
  transport : m.transport.IsClosed

namespace Focus

variable {s : Focus (Connection ω) ω}

theorem move_shut (next : Phase) (shut : s.member.Shut) : s.move next = s :=
  if_pos (Or.inl shut.phase)

theorem shut_settle (database : String) (e : ConnectionError) (shut : s.member.Shut) :
    (s.settle database (.error e)).member.Shut := by
  constructor
  · rw [settle_phase, if_pos shut.phase]
  · rw [settle_transport]
    exact shut.transport

variable [Net ω]

theorem attempt_shut (shut : s.member.Shut) (database : String) (b : Batch) :
    s.attempt database b =
      (.error (.closed s.member.transport.name), s.fail (.closed s.member.transport.name)) := by
  have written :
      s.written b = ⟨.error (.closed s.member.transport.name), s.member.transport, s.net⟩ :=
    Connection.write_closed shut.transport b s.net
  rw [attempt_of_error (congrArg Effect.answer written), written]
  rfl

theorem ensure_shut (shut : s.member.Shut) (database : String) :
    s.ensure database = (.error s.member.transport.denial, s) := by
  have created : s.create database = (.error s.member.transport.denial, s) := by
    have effect : Transport.create database s.member.transport s.net = _ :=
      Connection.create_closed shut.transport database s.net
    rw [create, operate, effect]
  rw [ensure, created]
  cases s.member.transport <;> rfl

theorem recover_shut (shut : s.member.Shut) (database : String) :
    s.recover database =
      (.error s.member.transport.denial, s.settle database (.error s.member.transport.denial)) := by
  rw [recover, move_shut .recovering shut, ensure_shut shut]

theorem close_shut (shut : s.member.Shut) : s.close = (.ok (), s) := by
  have effect : Transport.close s.member.transport s.net = _ :=
    Connection.close_closed shut.transport s.net
  obtain ⟨⟨endpoint, transport, phase, counters⟩, net, journal⟩ := s
  obtain ⟨rfl, -⟩ := shut
  rw [close, operate, effect]

theorem close_answer (s : Focus (Connection ω) ω) : s.close.1 = .ok () := rfl

theorem shut_close (s : Focus (Connection ω) ω) : s.close.2.member.Shut :=
  ⟨rfl, Connection.isClosed_close s.member.transport s.net⟩

end Focus

/-! ## Visits of a closed member -/

/-- A visit of a closed member. Nothing of it reaches the network, and the member stays closed. -/
structure Visit.Silent [Net ω] (x : Visit (Connection ω) ω) : Prop where
  unheard : x.after.net = x.before.net
  phase : x.before.member.phase = .closed ∧ x.after.member.phase = .closed
  /-- An attempt counts as one failure and repairs nothing. -/
  attempt : ∀ database b, x.act = .attempt database b →
    ∃ e, e = .closed x.before.member.transport.name ∧ e.failureClass = .transport ∧
      x.answer = .error e ∧
      x.after.member.counters =
        { x.before.member.counters with failures := x.before.member.counters.failures + 1 } ∧
      x.after.journal = .refused x.before.member.endpoint e :: x.before.journal
  creation : ∀ database, x.act = .recover database ∨ x.act = .ensure database →
    (∀ s, x.before.member.transport = .stream s → x.answer = .error (.closed s.name)) ∧
    (∀ d, x.before.member.transport = .datagram d →
      x.answer = .error (.unsupported d.name "database creation"))
  close : x.act = .close → x.answer = .ok ()

namespace Visit

variable [Net ω] {x : Visit (Connection ω) ω}

theorem answer_of_creation (shut : x.before.member.Shut) {database : String}
    (creation : x.act = .recover database ∨ x.act = .ensure database) :
    x.answer = .error x.before.member.transport.denial := by
  rcases creation with act | act
  · rw [answer, act]
    exact congrArg Prod.fst (Focus.recover_shut shut database)
  · rw [answer, act]
    exact congrArg Prod.fst (Focus.ensure_shut shut database)

theorem run_shut (shut : x.before.member.Shut) :
    x.after.net = x.before.net ∧ x.after.member.Shut := by
  rw [after]
  cases x.act with
  | attempt database b =>
    rw [Act.run, Focus.attempt_shut shut]
    exact ⟨rfl, shut.phase, shut.transport⟩
  | recover database =>
    rw [Act.run, Focus.recover_shut shut]
    exact ⟨Focus.settle_net _ _ _, Focus.shut_settle _ _ shut⟩
  | ensure database =>
    rw [Act.run, Focus.ensure_shut shut]
    exact ⟨rfl, shut⟩
  | close =>
    rw [Act.run, Focus.close_shut shut]
    exact ⟨rfl, shut⟩

theorem silent_of_shut (shut : x.before.member.Shut) : x.Silent := by
  obtain ⟨unheard, still⟩ := run_shut shut
  refine ⟨unheard, ⟨shut.phase, still.phase⟩, ?_, ?_, ?_⟩
  · intro database b act
    refine ⟨_, rfl, rfl, ?_, ?_, ?_⟩
    · rw [answer, act, Act.run, Focus.attempt_shut shut]
    · rw [after, act, Act.run, Focus.attempt_shut shut]
      rfl
    · rw [after, act, Act.run, Focus.attempt_shut shut]
      rfl
  · intro database creation
    have denied := answer_of_creation shut creation
    constructor
    · intro s stream
      rw [denied, stream]
      rfl
    · intro d datagram
      rw [denied, datagram]
      rfl
  · intro act
    rw [answer, act, Act.run, Focus.close_shut shut]

end Visit

namespace Fleet

variable [Net ω] {f g : Fleet (Connection ω) ω} {xs : List (Visit (Connection ω) ω)}

/-- A member that was closed by a visit is closed when the visits are over. -/
theorem Leads.shut (leads : Leads f xs g) {c : Visit (Connection ω) ω} (mem : c ∈ xs)
    (close : c.act = .close) :
    ∃ m, g.members[c.place]? = some m ∧ m.Shut := by
  obtain ⟨early, late, rfl⟩ := List.append_of_mem mem
  obtain ⟨h, -, there, later⟩ := leads.split
  have found := (focus?_eq_some.mp there).1
  have place : c.place < h.members.length := (List.getElem?_eq_some_iff.mp found).1
  have now : (h.put c.place c.after).Everywhere fun i m => i = c.place → m.Shut := by
    rintro i m found rfl
    rw [members_put_self place] at found
    obtain rfl := Option.some.inj found
    rw [Visit.after, close]
    exact c.before.shut_close
  have still := later.everywhere (fun x shut here => (Visit.run_shut (shut here)).2) now
  have within : c.place < g.members.length := by
    rw [later.length_eq, length_put]
    exact place
  exact ⟨_, List.getElem?_eq_getElem within, still _ _ (List.getElem?_eq_getElem within) rfl⟩

end Fleet

/-- However a pool of connections is moved on, from the visit that closes a member every later visit
of it is silent: nothing is sent through its connection, whatever the network, an attempt is refused
and counted as one failure, a creation is refused, another close succeeds, and the member is closed
before and behind it. The visits are all that happens to the pool and the network. -/
theorem closed_connections_stay_silent [Net ω] (f : Fleet (Connection ω) ω) (turns : List Turn) :
    Fleet.Leads f (f.journey turns) (f.turns turns) ∧
    (∀ early x late, f.journey turns = early ++ x :: late →
      (∃ c ∈ early, c.place = x.place ∧ c.act = .close) → x.Silent) ∧
    ∀ c ∈ f.journey turns, c.act = .close → ∀ later,
      (f.turns (turns ++ later)).members[c.place]?.map Member.phase = some .closed := by
  have leads := fun ts => Fleet.leads_turns Focus.close_answer ts f
  refine ⟨leads turns, ?_, ?_⟩
  · rintro early x late journey ⟨c, mem, place, close⟩
    have through := leads turns
    rw [journey] at through
    obtain ⟨g, before, there, -⟩ := through.split
    obtain ⟨m, found, shut⟩ := before.shut mem close
    rw [place, (Fleet.focus?_eq_some.mp there).1] at found
    obtain rfl := Option.some.inj found
    exact Visit.silent_of_shut shut
  · intro c mem close later
    have among : c ∈ f.journey (turns ++ later) := by
      rw [Fleet.journey_append]
      exact List.mem_append_left _ mem
    obtain ⟨m, found, shut⟩ := (leads (turns ++ later)).shut among close
    rw [found, Option.map_some, shut.phase]

/-- A datagram and a stream connection, on a network that lets everything through. -/
def mixedPool : Fleet (Connection Loopback) Loopback :=
  .ready [.datagram ⟨"udp://a:8089", "a:8089", 512, false⟩,
    .stream ⟨"http://b:8086",
      ⟨"http", some ⟨"", none, some (.name "b"), some 8086⟩, false, "/write".toList, none, none⟩,
      ⟨"http", some ⟨"", none, some (.name "b"), some 8086⟩, false, "/query".toList, none, none⟩,
      "metric-relay", ⟨none, none⟩, .seconds 5, false⟩]
    ⟨true, .empty, [], []⟩

/-- The datagram connection takes a batch, all are closed, and then everything is tried on them. -/
def afterwards : List Turn :=
  [.move (.dispatch "db" Fleet.someBatch [0]), .move .closeAll,
    .move (.dispatch "db" Fleet.someBatch [1, 0]), .ensure "db" 1, .move (.recover "db" 1),
    .move (.close 0)]

theorem closed_pool_stays_silent :
    (mixedPool.journey afterwards).map (fun x => (x.place, x.answer)) =
      [(0, .ok ()), (0, .ok ()), (1, .ok ()), (1, .error (.closed "http://b:8086")),
        (0, .error (.closed "udp://a:8089")), (1, .error (.closed "http://b:8086")),
        (1, .error (.closed "http://b:8086")), (0, .ok ())] ∧
    ∃ early x late c, mixedPool.journey afterwards = early ++ x :: late ∧
      c ∈ early ∧ c.place = x.place ∧ c.act = .close ∧ x.Silent ∧
      (mixedPool.turns afterwards).members[c.place]?.map Member.phase = some .closed := by
  refine ⟨by rfl, ?_⟩
  have long : 3 < (mixedPool.journey afterwards).length := by decide
  have cut : mixedPool.journey afterwards = (mixedPool.journey afterwards).take 3 ++
      (mixedPool.journey afterwards)[3] :: (mixedPool.journey afterwards).drop 4 := by
    rw [← List.drop_eq_getElem_cons long, List.take_append_drop]
  have mem : (mixedPool.journey afterwards)[2] ∈ (mixedPool.journey afterwards).take 3 :=
    List.mem_take_iff_getElem.mpr ⟨2, by decide, rfl⟩
  have silence := closed_connections_stay_silent mixedPool afterwards
  refine ⟨_, _, _, _, cut, mem, rfl, rfl, ?_, ?_⟩
  · exact silence.2.1 _ _ _ cut ⟨_, mem, rfl, rfl⟩
  · have phase := silence.2.2 _ (List.mem_of_mem_take mem) rfl []
    rwa [List.append_nil] at phase

end PointRelay
