import PointRelay.Proofs.Fleet.Closing
import PointRelay.Proofs.Stream.Requests
import PointRelay.Resolver

/-!
# What a fleet of connections asks

Connections to configured endpoints make requests for two purposes: to create the configured
database, and to write a batch under the configured settings. Each request goes to the resource of
its purpose at the endpoint of the connection. A connection that joined a pool and can make requests
has asked for the database before.
-/

namespace PointRelay

theorem exists_of_map_eq_ok {ε α β : Type} {f : α → β} {answer : Except ε α} {b : β}
    (mapped : answer.map f = .ok b) : ∃ a, answer = .ok a ∧ f a = b := by
  cases answer with
  | error e => cases mapped
  | ok a => exact ⟨a, rfl, Except.ok.inj mapped⟩

variable {ω : Type}

/-- Requests can be made to the endpoint. -/
def Endpoint.IsStream (e : Endpoint) : Prop := ∃ credentials, e.kind = .stream credentials

/-- The database of a configuration is to be created at an endpoint. -/
structure Request.Creates (c : Config.Output) (e : Endpoint) (r : Request) : Prop where
  resource : r.resource = (e.api "query").anonymous
  form : ∃ statement, r.form = [("q", statement)] ∧ Stream.creates? statement = some c.database

/-- A batch is to be written to an endpoint under the settings of a configuration. -/
structure Request.Writes (c : Config.Output) (b : Batch) (e : Endpoint) (r : Request) : Prop where
  resource : r.resource = (e.api "write").anonymous
  body : r.body = b.body
  form : r.form = [("db", c.database), ("precision", "ns")] ++
    (if c.retentionPolicy = "" then [] else [("rp", c.retentionPolicy)]) ++
    (if c.writeConsistency = "" then [] else [("consistency", c.writeConsistency)])

namespace Connection

/-- A connection is to an endpoint. -/
def Serves (e : Endpoint) : Connection ω → Prop
  | datagram _ => ¬ e.IsStream
  | stream s => s.writeUrl = e.api "write" ∧ s.queryUrl = e.api "query"

end Connection

variable {c : Config.Output} {e : Endpoint} {b : Batch}

namespace Stream

theorem resource_api (e : Endpoint) (resource : String) :
    { (e.api resource).anonymous with query := none } = (e.api resource).anonymous := by
  rw [Endpoint.api, Url.resource]
  split <;> rfl

theorem creates_creating {s : Stream} (serves : s.queryUrl = e.api "query") :
    (s.creating c.database).Creates c e := by
  refine ⟨?_, creation c.database, form_request .., creates?_creation c.database⟩
  rw [creating, resource_request, serves, resource_api]

theorem writes_writing {s : Stream} (serves : s.writeUrl = e.api "write")
    (settings : b.settings = c.settings) : (s.writing b).Writes c b e := by
  refine ⟨?_, rfl, ?_⟩
  · rw [writing, resource_request, serves, resource_api]
  · rw [writing, form_request, settings]
    rfl

end Stream

variable [Net ω]

theorem Datagram.requests_sendAll (address : String) (datagrams : List (List UInt8))
    (net : Traced ω) : (sendAll address datagrams net).2.requests = net.requests := by
  induction datagrams generalizing net with
  | nil => rfl
  | cons bytes rest ih =>
    have sent : (Net.send address bytes net).2.requests = net.requests := rfl
    rw [sendAll]
    rcases answer : Net.send address bytes net with ⟨why | ⟨⟩, after⟩
    · rw [answer] at sent
      exact sent
    · rw [answer] at sent
      exact (ih after).trans sent

theorem Datagram.requests_write (b : Batch) (d : Datagram) (net : Traced ω) :
    (d.write b net).2.requests = net.requests := by
  have sent := requests_sendAll d.address (Packing.pack d.payload b.lines) net
  unfold write
  split
  · rfl
  · rcases answer : sendAll d.address (Packing.pack d.payload b.lines) net with ⟨why | ⟨⟩, after⟩
    · rw [answer] at sent
      exact sent
    · rw [answer] at sent
      exact sent

/-- Finding a way for datagrams makes no request. -/
theorem Datagram.requests_dial (e : Endpoint) (payload : Nat) (net : Traced ω) :
    (dial e payload net).2.requests = net.requests ∧
      ∀ d, (dial e payload net).1 = .ok d → d.name = e.name := by
  unfold dial
  split
  · exact ⟨rfl, nofun⟩
  · rename_i address there
    have found : (Net.connect address net).2.requests = net.requests := rfl
    rcases answer : Net.connect address net with ⟨why | ⟨⟩, reached⟩
    · rw [answer] at found
      exact ⟨found, nofun⟩
    · rw [answer] at found
      refine ⟨found, fun d opened => ?_⟩
      obtain rfl := Except.ok.inj opened
      rfl

namespace Connection

/-- A connection that is opened is to its endpoint, and no request was made for it. -/
theorem requests_dial (e : Endpoint) (net : Traced ω) :
    (dial e net).2.requests = net.requests ∧
      ∀ t, (dial e net).1 = .ok t → t.name = e.name ∧ t.Serves e := by
  unfold dial
  split
  · rename_i payload kind
    obtain ⟨found, name⟩ := Datagram.requests_dial e payload net
    refine ⟨found, fun t opened => ?_⟩
    obtain ⟨d, there, rfl⟩ := exists_of_map_eq_ok opened
    refine ⟨name d there, ?_⟩
    rintro ⟨credentials, stream⟩
    rw [kind] at stream
    cases stream
  · refine ⟨rfl, fun t opened => ?_⟩
    obtain ⟨s, there, rfl⟩ := exists_of_map_eq_ok opened
    unfold Stream.dial at there
    split at there
    · obtain rfl := Except.ok.inj there
      exact ⟨rfl, rfl, rfl⟩
    · cases there

/-- A connection makes the request of a write or fails without one. -/
theorem requests_write {t : Connection (Traced ω)} (serves : t.Serves e)
    (settings : b.settings = c.settings) (net : Traced ω) :
    ∃ sent, (t.write b net).net.requests = sent ++ net.requests ∧ (∀ r ∈ sent, r.Writes c b e) ∧
      (e.IsStream → (t.write b net).answer = .ok () → sent ≠ []) := by
  cases t with
  | datagram d =>
    exact ⟨[], d.requests_write b net, List.forall_mem_nil _, fun stream => absurd stream serves⟩
  | stream s =>
    have writes := Stream.writes_writing serves.1 settings
    rcases s.write_cases (ω := Traced ω) b with ⟨e, refused⟩ | ⟨answer, posted⟩
    · refine ⟨[], congrArg (·.2.requests) (refused net), List.forall_mem_nil _, fun _ taken => ?_⟩
      cases (congrArg Prod.fst (refused net)).symm.trans taken
    · exact ⟨[s.writing b], congrArg (·.2.requests) (posted net),
        List.forall_mem_singleton.mpr writes, fun _ _ => List.cons_ne_nil _ _⟩

/-- A connection makes the request of a creation or fails without one. -/
theorem requests_create {t : Connection (Traced ω)} (serves : t.Serves e) (net : Traced ω) :
    ∃ sent, (t.create c.database net).net.requests = sent ++ net.requests ∧
      (∀ r ∈ sent, r.Creates c e) ∧
      (e.IsStream → Focus.ensured (t.create c.database net).answer = .ok () → sent ≠ []) := by
  cases t with
  | datagram d => exact ⟨[], rfl, List.forall_mem_nil _, fun stream => absurd stream serves⟩
  | stream s =>
    have creates := Stream.creates_creating (c := c) serves.2
    rcases s.create_cases (ω := Traced ω) c.database with ⟨e, missing, refused⟩ | ⟨answer, posted⟩
    · refine ⟨[], congrArg (·.2.requests) (refused net), List.forall_mem_nil _, fun _ there => ?_⟩
      have failed : (create c.database (stream s) net).answer = .error e :=
        congrArg Prod.fst (refused net)
      rw [failed, missing] at there
      cases there
    · exact ⟨[s.creating c.database], congrArg (·.2.requests) (posted net),
        List.forall_mem_singleton.mpr creates, fun _ _ => List.cons_ne_nil _ _⟩

end Connection

/-- A member is a connection to an endpoint. -/
structure Member.Serves (e : Endpoint) (m : Member (Connection ω)) : Prop where
  name : m.endpoint = e.name
  transport : m.transport.Serves e

namespace Focus

/-- An attempt asks for a write, and for a creation when it found the database missing. -/
theorem requests_attempt {s t : Focus (Connection (Traced ω)) (Traced ω)}
    {answer : Except ConnectionError Unit} (serves : s.member.Serves e)
    (settings : b.settings = c.settings) (tried : s.attempt c.database b = (answer, t)) :
    t.member.Serves e ∧ ∃ sent, t.net.requests = sent ++ s.net.requests ∧
      (∀ r ∈ sent, r.Creates c e ∨ r.Writes c b e) ∧
      (answer = .ok () → (∀ r ∈ sent, r.Writes c b e) ∧ (e.IsStream → sent ≠ [])) := by
  have name := (attempt_endpoint tried).trans serves.name
  obtain ⟨sent, written, writes, asked⟩ :=
    Connection.requests_write serves.transport settings s.net
  cases answer with
  | ok =>
    obtain ⟨taken, -, transport, net⟩ := attempt_ok tried
    refine ⟨⟨name, transport ▸ serves.transport⟩, sent, net ▸ written,
      fun r mem => Or.inr (writes r mem), fun _ => ⟨writes, fun stream => asked stream taken⟩⟩
  | error why =>
    obtain ⟨-, -, ⟨-, transport, net⟩ | ⟨-, transport, net⟩⟩ := attempt_error tried
    · exact ⟨⟨name, transport ▸ serves.transport⟩, sent, net ▸ written,
        fun r mem => Or.inr (writes r mem), nofun⟩
    · obtain ⟨more, created, creates, -⟩ := Connection.requests_create (c := c)
        (t := (s.written b).transport) serves.transport (s.written b).net
      refine ⟨⟨name, transport ▸ serves.transport⟩, more ++ sent, ?_, ?_, nofun⟩
      · rw [net, List.append_assoc]
        exact created.trans (congrArg (more ++ ·) written)
      · intro r mem
        exact (List.mem_append.mp mem).imp (creates r) (writes r)

end Focus

end PointRelay
