import Mathlib
import PointRelay.Net.Loopback
import PointRelay.Proofs.Fleet.Requests
import PointRelay.Proofs.Output.Run

/-!
# The database that is created is written to

The name of the configured database travels on two ways: to the creations that are asked for when a
pool is built and when a write finds the database missing, and to the writes of batches. Whatever
characters it has, it comes out of both as it was configured. All requests of a run are of these two
kinds, and which batches they write is what callers asked for.
-/

namespace PointRelay

variable {ω : Type} [Net ω] {c : Config.Output} {e : Endpoint} {es : List Endpoint} {b : Batch}

namespace Member

omit [Net ω] in
theorem Serves.move {s : Focus (Connection ω) ω} (serves : s.member.Serves e) (next : Phase) :
    (s.move next).member.Serves e :=
  ⟨by rw [Focus.move_endpoint, serves.name], by rw [Focus.move_transport]; exact serves.transport⟩

theorem Serves.close {s : Focus (Connection ω) ω} (serves : s.member.Serves e) :
    s.close.2.member.Serves e := by
  refine ⟨serves.name, ?_⟩
  have transport := serves.transport
  change (s.member.transport.close s.net).transport.Serves e
  cases t : s.member.transport with
  | datagram d => rwa [t] at transport
  | stream u => rwa [t] at transport

end Member

namespace Resolver

section
variable {τ ω : Type} [Dial τ ω] {database : String} {rest : List Endpoint} {net after : ω}

theorem openAll_of_error {source : ConnectionError} {notes : Journal}
    (dialed : (Dial.dial e net : Except ConnectionError τ × ω) = (.error source, after)) :
    openAll (τ := τ) database (e :: rest) net notes =
      (.error (.connect e.name source), after, notes) := by
  rw [openAll, dialed]

theorem openAll_of_ok {t : τ} {notes : Journal}
    (dialed : (Dial.dial e net : Except ConnectionError τ × ω) = (.ok t, after)) :
    openAll database (e :: rest) net notes =
      let left := vet database e ⟨Member.new t, after, notes⟩
      let later := openAll database rest left.2.net left.2.journal
      (later.1.map fun ms => if left.1 then left.2.member :: ms else ms, later.2) := by
  rw [openAll, dialed]

end

theorem serves_release {s : Focus (Connection (Traced ω)) (Traced ω)}
    (serves : s.member.Serves e) : (release s).member.Serves e :=
  serves.close

/-- Who joins a pool has asked for the database. -/
theorem requests_vet {s : Focus (Connection (Traced ω)) (Traced ω)}
    (serves : s.member.Serves e) :
    (vet c.database e s).2.member.Serves e ∧
      ∃ sent, (vet c.database e s).2.net.requests = sent ++ s.net.requests ∧
        (∀ r ∈ sent, r.Creates c e) ∧
        ((vet c.database e s).1 = true → e.IsStream → sent ≠ []) := by
  unfold vet
  split
  · rename_i payload kind
    refine ⟨serves.move .ready, [], by rw [Focus.move_net]; rfl, List.forall_mem_nil _, ?_⟩
    rintro - ⟨credentials, stream⟩
    rw [kind] at stream
    cases stream
  · obtain ⟨sent, created, creates, asked⟩ :=
      Connection.requests_create (c := c) serves.transport s.net
    have kept : (s.ensure c.database).2.member.Serves e := by
      refine ⟨serves.name, ?_⟩
      exact serves.transport
    have left : (s.ensure c.database).2.net.requests = sent ++ s.net.requests := created
    rcases answer : s.ensure c.database with ⟨why | ⟨⟩, t⟩
    · rw [answer] at kept left
      exact ⟨serves_release kept, sent, left, creates, nofun⟩
    · have there : Focus.ensured (s.member.transport.create c.database s.net).answer = .ok () :=
        congrArg Prod.fst answer
      rw [answer] at kept left
      refine ⟨kept.move .ready, sent, by rw [Focus.move_net]; exact left, creates, ?_⟩
      exact fun _ stream => asked stream there

/-- All requests of a build are creations, and the members of the pool have asked for theirs. -/
theorem requests_openAll (endpoints : List Endpoint) (net : Traced ω) (notes : Journal) :
    ∃ sent, (openAll (τ := Connection (Traced ω)) c.database endpoints net notes).2.1.requests =
        sent ++ net.requests ∧
      (∀ r ∈ sent, ∃ e ∈ endpoints, r.Creates c e) ∧
      ∀ ms : List (Member (Connection (Traced ω))),
        (openAll c.database endpoints net notes).1 = .ok ms → ∀ m ∈ ms,
          ∃ e ∈ endpoints, m.Serves e ∧ (e.IsStream → ∃ r ∈ sent, r.Creates c e) := by
  induction endpoints generalizing net notes with
  | nil =>
    rw [openAll]
    refine ⟨[], rfl, List.forall_mem_nil _, fun ms opened => ?_⟩
    obtain rfl := Except.ok.inj opened
    exact List.forall_mem_nil _
  | cons e rest ih =>
    obtain ⟨quiet, opens⟩ := Connection.requests_dial e net
    rcases dialed : Connection.dial e net with ⟨source | t, after⟩
    · rw [openAll_of_error dialed]
      rw [dialed] at quiet
      exact ⟨[], quiet, List.forall_mem_nil _, fun ms opened => nomatch opened⟩
    · rw [dialed] at quiet opens
      obtain ⟨name, serves⟩ := opens t rfl
      obtain ⟨kept, sent, vetted, creates, asked⟩ := requests_vet (c := c)
        (s := ⟨Member.new t, after, notes⟩) ⟨name, serves⟩
      rw [openAll_of_ok dialed]
      generalize vet c.database e ⟨Member.new t, after, notes⟩ = left at *
      obtain ⟨joins, left⟩ := left
      obtain ⟨more, others, further, members⟩ := ih left.net left.journal
      refine ⟨more ++ sent, ?_, ?_, ?_⟩
      · rw [others, vetted, quiet, List.append_assoc]
      · intro r mem
        rcases List.mem_append.mp mem with later | now
        · obtain ⟨d, there, creates⟩ := further r later
          exact ⟨d, List.mem_cons_of_mem e there, creates⟩
        · exact ⟨e, List.mem_cons_self, creates r now⟩
      · intro ms opened m mem
        obtain ⟨others, found, rfl⟩ := exists_of_map_eq_ok opened
        have behind : ∀ m ∈ others, ∃ d ∈ e :: rest, m.Serves d ∧
            (d.IsStream → ∃ r ∈ more ++ sent, r.Creates c d) := by
          intro m mem
          obtain ⟨d, there, serves, created⟩ := members others found m mem
          refine ⟨d, List.mem_cons_of_mem e there, serves, fun stream => ?_⟩
          obtain ⟨r, among, creates⟩ := created stream
          exact ⟨r, List.mem_append_left sent among, creates⟩
        cases joins with
        | false => exact behind m mem
        | true =>
          rcases List.mem_cons.mp mem with rfl | mem
          · refine ⟨e, List.mem_cons_self, kept, fun stream => ?_⟩
            obtain ⟨r, rest, rfl⟩ := List.exists_cons_of_ne_nil (asked rfl stream)
            exact ⟨r, List.mem_append_right more List.mem_cons_self,
              creates r List.mem_cons_self⟩
          · exact behind m mem

end Resolver

/-- What callers ask to be written under a configuration. -/
def Config.Output.Submits (c : Config.Output) (actions : List Action) (b : Batch) : Prop :=
  ∃ records, .write records ∈ actions ∧ Batch.encode c.settings records = .ok b

theorem Config.Output.settings_of_encode {records : List Record}
    (encoded : Batch.encode c.settings records = .ok b) : b.settings = c.settings := by
  rw [(Batch.encode_ok encoded).1]

theorem Config.Output.Submits.settings {actions : List Action} (submits : c.Submits actions b) :
    b.settings = c.settings := by
  obtain ⟨records, -, encoded⟩ := submits
  exact settings_of_encode encoded

/-- A request creates the configured database at one of the endpoints, or writes there what callers
asked for. -/
def Request.Due (c : Config.Output) (es : List Endpoint) (actions : List Action) (r : Request) :
    Prop :=
  ∃ e ∈ es, r.Creates c e ∨ ∃ b, c.Submits actions b ∧ r.Writes c b e

variable {actions : List Action} {sent before : List Request}

namespace Fleet

/-- A fleet of connections to the endpoints of a configuration, and the requests that were sent
since those `before`. -/
structure Faithful (c : Config.Output) (es : List Endpoint) (actions : List Action)
    (sent before : List Request) (f : Fleet (Connection (Traced ω)) (Traced ω)) : Prop where
  requests : f.net.requests = sent ++ before
  due : ∀ r ∈ sent, r.Due c es actions
  members : ∀ m ∈ f.members, ∃ e ∈ es, m.Serves e ∧ (e.IsStream → ∃ r ∈ sent, r.Creates c e)

namespace Faithful

variable {f g : Fleet (Connection (Traced ω)) (Traced ω)} {i : Nat}
  {s t : Focus (Connection (Traced ω)) (Traced ω)}

omit [Net ω] in
/-- More requests may be sent, members may go on, and others may join that have asked for the
database. -/
theorem more (faithful : f.Faithful c es actions sent before) {new : List Request}
    (requests : g.net.requests = new ++ f.net.requests) (due : ∀ r ∈ new, r.Due c es actions)
    (members : ∀ m ∈ g.members, (∃ old ∈ f.members, ∀ e, old.Serves e → m.Serves e) ∨
      ∃ e ∈ es, m.Serves e ∧ (e.IsStream → ∃ r ∈ new, r.Creates c e)) :
    g.Faithful c es actions (new ++ sent) before := by
  refine ⟨?_, ?_, fun m mem => ?_⟩
  · rw [requests, faithful.requests, List.append_assoc]
  · exact fun r mem => (List.mem_append.mp mem).elim (due r) (faithful.due r)
  · rcases members m mem with ⟨old, there, goes_on⟩ | ⟨e, there, serves, asked⟩
    · obtain ⟨e, among, serves, asked⟩ := faithful.members old there
      refine ⟨e, among, goes_on e serves, fun stream => ?_⟩
      obtain ⟨r, mem, creates⟩ := asked stream
      exact ⟨r, List.mem_append_right new mem, creates⟩
    · refine ⟨e, there, serves, fun stream => ?_⟩
      obtain ⟨r, mem, creates⟩ := asked stream
      exact ⟨r, List.mem_append_left sent mem, creates⟩

omit [Net ω] in
theorem put (faithful : f.Faithful c es actions sent before) (there : f.focus? i = some s)
    {new : List Request} (requests : t.net.requests = new ++ s.net.requests)
    (due : ∀ r ∈ new, r.Due c es actions)
    (goes_on : ∀ e, s.member.Serves e → t.member.Serves e) :
    (f.put i t).Faithful c es actions (new ++ sent) before := by
  obtain ⟨found, net, -⟩ := focus?_eq_some.mp there
  refine faithful.more (net ▸ requests) due fun m mem => Or.inl ?_
  rcases List.mem_or_eq_of_mem_set mem with other | rfl
  · exact ⟨m, other, fun _ => id⟩
  · exact ⟨s.member, List.mem_of_getElem? found, goes_on⟩

theorem close (faithful : f.Faithful c es actions sent before) (there : f.focus? i = some s) :
    (f.put i (s.close.2.told s.close.1)).Faithful c es actions sent before := by
  have quiet : (s.close.2.told s.close.1).net.requests = [] ++ s.net.requests := rfl
  refine faithful.put there quiet (List.forall_mem_nil _) fun e serves => ?_
  rw [Focus.told_member]
  exact serves.close

/-- An attempt to write what callers asked for asks for that write, and for the database when it is
missing. -/
theorem attempt (faithful : f.Faithful c es actions sent before) (there : f.focus? i = some s)
    (submitted : c.Submits actions b) :
    ∃ new, (f.put i (s.attempt c.database b).2).Faithful c es actions (new ++ sent) before := by
  rcases tried : s.attempt c.database b with ⟨answer, t⟩
  obtain ⟨e, among, serves, -⟩ := faithful.members s.member (mem_of_focus? there)
  obtain ⟨-, new, requests, due, -⟩ := Focus.requests_attempt serves submitted.settings tried
  refine ⟨new, faithful.put there requests (fun r mem => ?_) fun d serves => ?_⟩
  · exact ⟨e, among, (due r mem).imp id fun writes => ⟨b, submitted, writes⟩⟩
  · exact (Focus.requests_attempt serves submitted.settings tried).1

theorem tried {poolSize attempts : Nat} {places : List Nat} {v : Verdict}
    (tried : Tried c.database b poolSize attempts places f v g) (submitted : c.Submits actions b)
    (fleet : ∃ sent, f.Faithful c es actions sent before) :
    ∃ sent, g.Faithful c es actions sent before :=
  tried.keeps (R := fun f => ∃ sent, f.Faithful c es actions sent before)
    (fun there ⟨sent, fleet⟩ =>
      (fleet.attempt there submitted).elim fun new kept => ⟨new ++ sent, kept⟩)
    fleet

end Faithful

end Fleet

namespace Output

/-- Outputs of a configuration over a network whose requests are kept. -/
abbrev Online (ω : Type) :=
  Output (Resolver (Connection (Traced ω))) (Connection (Traced ω)) (Traced ω)

/-- An output of a configuration has its settings and its endpoints, and a faithful fleet. -/
structure Faithful (c : Config.Output) (es : List Endpoint) (actions : List Action)
    (before : List Request) (o : Online ω) : Prop where
  settings : o.settings = c.settings
  factory : o.factory = ⟨c.database, es⟩
  fleet : ∃ sent, o.fleet.Faithful c es actions sent before

omit [Net ω] in
/-- The configuration of an output has endpoints that can be used. -/
theorem exists_of_ofConfig {net : Traced ω} {orders : List (List Nat)} {start : Online ω}
    (configured : ofConfig c net orders = .ok start) :
    ∃ es, Endpoint.resolveAll c = .ok es ∧
      start = .new c.settings ⟨c.database, es⟩ net orders := by
  obtain ⟨r, resolver, rfl⟩ := exists_of_map_eq_ok configured
  obtain ⟨es, resolved, rfl⟩ := exists_of_map_eq_ok resolver
  exact ⟨es, resolved, rfl⟩

omit [Net ω] in
theorem faithful_new (c : Config.Output) (es : List Endpoint) (actions : List Action)
    (net : Traced ω) (orders : List (List Nat)) :
    (new c.settings ⟨c.database, es⟩ net orders : Online ω).Faithful c es actions net.requests :=
  ⟨rfl, rfl, [], rfl, List.forall_mem_nil _, List.forall_mem_nil _⟩

namespace Faithful

variable {o p : Online ω}

/-- With the members that a build hands out the fleet is faithful. -/
theorem handout (faithful : o.Faithful c es actions before) (journal : Journal) :
    (Factory.build o.factory o.fleet.net).factory = ⟨c.database, es⟩ ∧
      ∃ sent, Fleet.Faithful c es actions sent before ⟨o.fleet.members ++ o.handout,
        (Factory.build o.factory o.fleet.net).net, journal⟩ := by
  obtain ⟨sent, fleet⟩ := faithful.fleet
  obtain ⟨new, asked, creates, members⟩ := Resolver.requests_openAll (c := c) es o.fleet.net []
  rw [faithful.factory]
  refine ⟨rfl, new ++ sent, fleet.more asked (fun r mem => ?_) fun m mem => ?_⟩
  · obtain ⟨e, among, creates⟩ := creates r mem
    exact ⟨e, among, Or.inl creates⟩
  · rcases List.mem_append.mp mem with old | handed
    · exact Or.inl ⟨m, old, fun _ => id⟩
    · refine Or.inr ?_
      unfold Output.handout at handed
      rw [faithful.factory] at handed
      split at handed
      · rename_i ms built
        exact members ms built m handed
      · cases handed

theorem build (faithful : o.Faithful c es actions before) :
    o.build.2.Faithful c es actions before := by
  obtain ⟨factory, fleet⟩ := faithful.handout
    ((Factory.build o.factory o.fleet.net).notes ++ o.fleet.journal)
  rw [build_eq]
  exact ⟨faithful.settings, factory, fleet⟩

theorem readied (faithful : o.Faithful c es actions before) (b : Batch) :
    (o.readied b).Faithful c es actions before := by
  rcases o.readied_cases b with ⟨-, -, journal, same⟩ | ⟨-, same⟩
  · obtain ⟨factory, fleet⟩ := faithful.handout journal
    rw [same]
    exact ⟨faithful.settings, factory, fleet⟩
  · obtain ⟨sent, fleet⟩ := faithful.fleet
    rw [same]
    exact ⟨faithful.settings, faithful.factory, sent, fleet.requests, fleet.due, fleet.members⟩

theorem close {f g : Fleet (Connection (Traced ω)) (Traced ω)} {places : List Nat}
    {answers : List (Except ConnectionError Unit)} (asked : Fleet.Asked places f answers g)
    (fleet : ∃ sent, f.Faithful c es actions sent before) :
    ∃ sent, g.Faithful c es actions sent before :=
  asked.keeps (R := fun f => ∃ sent, f.Faithful c es actions sent before)
    (fun there ⟨sent, fleet⟩ => ⟨sent, fleet.close there⟩) fleet

theorem step {a : Action} {answer : Answer} (faithful : o.Faithful c es actions before)
    (step : Step o a answer p) (asked : a ∈ actions) : p.Faithful c es actions before := by
  cases step with
  | refused failed => exact faithful.build
  | @connected pool answers g built closed =>
    obtain ⟨journal, same⟩ := noteReplaced_eq (answers.filterMap failure?)
      { o.build.2 with fleet := g, pool, closed := false }
    obtain ⟨settings, factory, sent, fleet⟩ := faithful.build
    obtain ⟨sent, fleet⟩ := close closed ⟨sent, fleet.requests, fleet.due, fleet.members⟩
    rw [same]
    exact ⟨settings, factory, sent, fleet.requests, fleet.due, fleet.members⟩
  | unencoded refused => exact faithful
  | nothing => exact faithful
  | @written records b places v g orders encoded something order tried =>
    obtain ⟨n, same⟩ := conclude_snd b.size v { o.readied b with fleet := g, orders }
    obtain ⟨settings, factory, fleet⟩ := faithful.readied b
    rw [faithful.settings] at encoded tried
    obtain ⟨sent, fleet⟩ := Fleet.Faithful.tried tried ⟨records, asked, encoded⟩ fleet
    rw [same]
    exact ⟨settings, factory, sent, fleet.requests, fleet.due, fleet.members⟩
  | @closed answers g closed =>
    obtain ⟨sent, fleet⟩ := faithful.fleet
    obtain ⟨sent, fleet⟩ := close closed ⟨sent, fleet.requests, fleet.due, fleet.members⟩
    exact ⟨faithful.settings, faithful.factory, sent, fleet⟩

theorem run (sound : o.Sound) (faithful : o.Faithful c es actions before) {rest : List Action}
    (among : rest ⊆ actions) : (run rest o).2.Faithful c es actions before := by
  induction rest generalizing o with
  | nil => exact faithful
  | cons a rest ih =>
    obtain ⟨first, later⟩ := List.cons_subset.mp among
    have step := step_perform sound a
    exact ih (sound.step step) (faithful.step step first) later

/-- The last request of a write that a stream connection took is the write of its batch. -/
theorem delivered (sound : o.Sound) (faithful : o.Faithful c es actions before)
    {records : List Record} {report : Report} {name : String}
    (asked : .write records ∈ actions) (taken : (o.write records).1 = .ok report)
    (by_ : report.endpoint = some name) :
    ∃ e ∈ es, e.name = name ∧
      (e.IsStream → ∃ b r, Batch.encode c.settings records = .ok b ∧ r.Writes c b e ∧
        (o.write records).2.fleet.net.requests.head? = some r) := by
  have step := step_write sound records
  change Step o (.write records) (.written (o.write records).1) (o.write records).2 at step
  rw [taken] at step
  generalize (o.write records).2 = p at step ⊢
  generalize answered : Answer.written (.ok report) = answer at step
  cases step with
  | unencoded refused => cases answered
  | nothing =>
    cases answered
    cases by_
  | @written records b places v g orders encoded something order tried =>
    obtain ⟨n, same⟩ := conclude_snd b.size v { o.readied b with fleet := g, orders }
    have ready := faithful.readied b
    rw [faithful.settings] at encoded tried
    rw [same]
    cases tried with
    | exhausted refused => cases answered
    | @delivered first later i mid s t split refused there accepted =>
      cases answered
      cases by_
      have earlier : Fleet.Tried c.database b 0 0 first (o.readied b).fleet
          (.exhausted (0 + first.length) 0) mid := .exhausted refused
      obtain ⟨sent, fleet⟩ :=
        Fleet.Faithful.tried earlier ⟨records, asked, encoded⟩ ready.fleet
      obtain ⟨e, among, serves, -⟩ := fleet.members s.member (Fleet.mem_of_focus? there)
      obtain ⟨-, new, requests, -, writes⟩ :=
        Focus.requests_attempt serves (Config.Output.settings_of_encode encoded) accepted
      obtain ⟨writes, some⟩ := writes rfl
      refine ⟨e, among, serves.name.symm, fun stream => ?_⟩
      obtain ⟨r, rest, rfl⟩ := List.exists_cons_of_ne_nil (some stream)
      exact ⟨b, r, encoded, writes r List.mem_cons_self, congrArg List.head? requests⟩

end Faithful

/-- However its name is written, the database that an output creates is the one that it writes to.
Every request of a run is one of two: a creation, whose query is a single statement that creates the
configured database and says nothing else, or the write of a batch that was asked for, whose query
is the configured settings. Every connection to a stream endpoint has asked for its creation, and a
batch that such a connection took left with the last request. -/
theorem created_database_is_written_to {net : Traced ω} {orders : List (List Nat)}
    {start : Online ω} (configured : ofConfig c net orders = .ok start) (actions : List Action) :
    ∃ es sent, Endpoint.resolveAll c = .ok es ∧
      (run actions start).2.fleet.net.requests = sent ++ net.requests ∧
      (∀ r ∈ sent, ∃ e ∈ es, r.Creates c e ∨ ∃ b, c.Submits actions b ∧ r.Writes c b e) ∧
      (∀ m ∈ (run actions start).2.fleet.members, ∃ e ∈ es, e.name = m.endpoint ∧
        (e.IsStream → ∃ r ∈ sent, r.Creates c e)) ∧
      ∀ records report name, ((run actions start).2.write records).1 = .ok report →
        report.endpoint = some name → ∃ e ∈ es, e.name = name ∧
          (e.IsStream → ∃ b r, Batch.encode c.settings records = .ok b ∧ r.Writes c b e ∧
            ((run actions start).2.write records).2.fleet.net.requests.head? = some r) := by
  obtain ⟨es, resolved, rfl⟩ := exists_of_ofConfig configured
  have sound : (new c.settings ⟨c.database, es⟩ net orders : Online ω).Sound := sound_new _ _ _ _
  obtain ⟨-, -, sent, fleet⟩ :=
    (faithful_new c es actions net orders).run sound (List.Subset.refl actions)
  refine ⟨es, sent, resolved, fleet.requests, fleet.due, fun m mem => ?_, ?_⟩
  · obtain ⟨e, among, serves, asked⟩ := fleet.members m mem
    exact ⟨e, among, serves.name.symm, asked⟩
  · intro records report name taken by_
    have faithful := (faithful_new c es (.write records :: actions) net orders).run sound
      (List.subset_cons_self (.write records) actions)
    exact faithful.delivered (sound_run actions sound) List.mem_cons_self taken by_

/-- A configuration whose names have a meaning in URLs, in forms and between quotes. -/
def awkward : Config.Output :=
  { Config.Output.new "a\"b\\ +&=é" with
    urls := ["http://[::1]"], retentionPolicy := "d&q=x" }

/-- A store whose first answer to a write is that the database is missing. -/
def forgetting : Traced Loopback :=
  ⟨⟨true, Dict.ofList [("[::1]", ⟨[⟨404, [], .whole⟩], []⟩)], [], []⟩, []⟩

def awkwardStart : Online Loopback :=
  .new awkward.settings ⟨awkward.database, [⟨"http://[::1]",
    ⟨"http", some ⟨"", none, some (.ipv6 [0, 0, 0, 0, 0, 0, 0, 1]), none⟩, false, ['/'], none,
      none⟩,
    .stream ⟨none, none⟩, "metric-relay", .seconds 5⟩]⟩ forgetting []

/-- The database is created when the pool is built and again when it was missing. -/
theorem awkward_database_is_written_to :
    ofConfig awkward forgetting [] = .ok awkwardStart ∧
      ∃ (es : List Endpoint) (sent : List Request), Endpoint.resolveAll awkward = .ok es ∧
        sent.map (fun r => String.ofList r.url.path) = ["/write", "/query", "/write", "/query"] ∧
        ∀ r ∈ sent, ∃ e ∈ es, r.Creates awkward e ∨
          ∃ b, awkward.Submits [.connect, .write [reading], .write [reading]] b ∧
            r.Writes awkward b e := by
  have configured : ofConfig awkward forgetting [] = .ok awkwardStart := by cbv
  obtain ⟨es, sent, resolved, requests, due, -⟩ :=
    created_database_is_written_to configured [.connect, .write [reading], .write [reading]]
  refine ⟨configured, es, sent, resolved, ?_, due⟩
  have all :
      (run [.connect, .write [reading], .write [reading]] awkwardStart).2.fleet.net.requests =
        sent := requests.trans (List.append_nil sent)
  rw [← all]
  cbv

end Output

end PointRelay
