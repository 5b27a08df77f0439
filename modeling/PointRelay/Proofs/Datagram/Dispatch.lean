import PointRelay.Connection
import PointRelay.Proofs.Datagram.Sending
import PointRelay.Proofs.Fleet.Trial
import PointRelay.Proofs.Stream.Requests

/-!
# What a dispatch sends as datagrams

The datagrams of a batch leave through the members that are tried, in order: some of the first ones
through a datagram connection that refuses, all of them through one that takes the batch, none
through a stream. When every datagram connection of the pool sends the batch at once or not at all,
the batch leaves through the member that is reported and through no other.
-/

namespace PointRelay

variable {ω : Type} [Sending ω]

namespace Stream

theorem sent_write (b : Batch) (s : Stream) (net : ω) :
    Sending.sent (s.write b net).2 = Sending.sent net := by
  rcases s.write_cases (ω := ω) b with ⟨e, refused⟩ | ⟨answer, posted⟩
  · rw [refused]
  · rw [posted]
    exact Sending.sent_request _ net

theorem sent_create (database : String) (s : Stream) (net : ω) :
    Sending.sent (s.create database net).2 = Sending.sent net := by
  rcases s.create_cases (ω := ω) database with ⟨e, -, refused⟩ | ⟨answer, posted⟩
  · rw [refused]
  · rw [posted]
    exact Sending.sent_request _ net

end Stream

namespace Connection

/-- The datagrams of a batch that leave through a connection, newest first. -/
def departed (b : Batch) (c : Connection ω) (net : ω) : List (String × List UInt8) :=
  match c with
  | datagram d => Datagram.addressed d.address ((d.datagrams b).take (d.departing b net))
  | stream _ => []

/-- The datagrams in which a connection carries a batch, newest first. -/
def load (b : Batch) (c : Connection ω) : List (String × List UInt8) :=
  match c with
  | datagram d => Datagram.addressed d.address (d.datagrams b)
  | stream _ => []

theorem sent_written (b : Batch) (s : Focus (Connection ω) ω) :
    (s.written b).transport = s.member.transport ∧
      Sending.sent (s.written b).net =
        s.member.transport.departed b s.net ++ Sending.sent s.net := by
  refine ⟨rfl, ?_⟩
  change Sending.sent (s.member.transport.write b s.net).net = _
  cases s.member.transport with
  | datagram d => exact (d.sent_write b s.net).1
  | stream t => exact t.sent_write b s.net

theorem sent_recreated (database : String) (b : Batch) (s : Focus (Connection ω) ω) :
    (s.recreated database b).transport = s.member.transport ∧
      Sending.sent (s.recreated database b).net = Sending.sent (s.written b).net := by
  refine ⟨rfl, ?_⟩
  change Sending.sent (s.member.transport.create database (s.written b).net).net = _
  cases s.member.transport with
  | datagram d => rfl
  | stream t => exact t.sent_create database (s.written b).net

/-- An attempt leaves a connection as it is and sends what departs. -/
theorem sent_attempt {database : String} {b : Batch} {s t : Focus (Connection ω) ω}
    {answer : Except ConnectionError Unit} (tried : s.attempt database b = (answer, t)) :
    t.member.transport = s.member.transport ∧
      Sending.sent t.net = s.member.transport.departed b s.net ++ Sending.sent s.net := by
  obtain ⟨same, sent⟩ := sent_written b s
  cases answer with
  | ok =>
    obtain ⟨-, -, transport, net⟩ := Focus.attempt_ok tried
    rw [transport, net]
    exact ⟨same, sent⟩
  | error e =>
    obtain ⟨-, -, ⟨-, transport, net⟩ | ⟨-, transport, net⟩⟩ := Focus.attempt_error tried
    · rw [transport, net]
      exact ⟨same, sent⟩
    · obtain ⟨kept, nothing⟩ := sent_recreated database b s
      rw [transport, net, nothing]
      exact ⟨kept, sent⟩

/-- What a member that is tried carries is gone at once or not at all. -/
def Whole (b : Batch) (c : Connection ω) : Prop :=
  ∀ d, c = datagram d → d.Whole b

theorem departed_of_ok {b : Batch} {s : Focus (Connection ω) ω}
    (taken : (s.written b).answer = .ok ()) :
    s.member.transport.departed b s.net = s.member.transport.load b := by
  change (s.member.transport.write b s.net).answer = .ok () at taken
  cases c : s.member.transport with
  | datagram d =>
    rw [c] at taken
    have all := ((d.sent_write b s.net).2.mp taken).2
    rw [departed, load, all, List.take_length]
  | stream t => rfl

theorem departed_of_error {b : Batch} {s : Focus (Connection ω) ω} {e : ConnectionError}
    (refused : (s.written b).answer = .error e) (whole : s.member.transport.Whole b) :
    s.member.transport.departed b s.net = [] := by
  change (s.member.transport.write b s.net).answer = .error e at refused
  cases c : s.member.transport with
  | datagram d =>
    rw [c] at refused
    have none := (d.failure_sends_nothing_iff b).mpr (whole d c) ω s.net e refused
    rw [(d.sent_write b s.net).1] at none
    exact List.append_left_eq_self.mp none
  | stream t => rfl

end Connection

namespace Fleet

variable {database : String} {b : Batch}

/-- Members that refuse a batch and would send it at once or not at all have sent nothing. -/
theorem Refused.sent_eq {places : List Nat} {f g : Fleet (Connection ω) ω}
    (refused : Refused database b places f g)
    (whole : ∀ i ∈ places, ∀ m, f.members[i]? = some m → m.transport.Whole b) :
    Sending.sent g.net = Sending.sent f.net := by
  induction refused with
  | nil => rfl
  | @cons i rest f g s t e there trial later ih =>
    obtain ⟨found, net, -⟩ := focus?_eq_some.mp there
    obtain ⟨same, sent⟩ := Connection.sent_attempt trial
    have none := Connection.departed_of_error (Focus.attempt_error trial).1
      (whole i List.mem_cons_self s.member found)
    rw [none, List.nil_append, net] at sent
    refine (ih fun j mem m present => ?_).trans sent
    have kept : (f.put i t).members[j]?.map Member.transport =
        f.members[j]?.map Member.transport := view_put there same j
    rw [present] at kept
    obtain ⟨m', found', transport⟩ := Option.map_eq_some_iff.mp kept.symm
    rw [← transport]
    exact whole j (List.mem_cons_of_mem i mem) m' found'

/-- What becomes of a batch that every connection sends at once or not at all. -/
theorem Tried.sent_cases {poolSize : Nat} {places : List Nat} {f g : Fleet (Connection ω) ω}
    {v : Verdict} (tried : Tried database b poolSize 0 places f v g) (distinct : places.Nodup)
    (whole : ∀ i ∈ places, ∀ m, f.members[i]? = some m → m.transport.Whole b) :
    (∃ i m attempts, i ∈ places ∧ f.members[i]? = some m ∧
      v = .delivered m.endpoint attempts ∧
      Sending.sent g.net = m.transport.load b ++ Sending.sent f.net) ∨
    (v = .exhausted places.length poolSize ∧ Sending.sent g.net = Sending.sent f.net) := by
  cases tried with
  | @delivered before after i mid s t split refused there taken =>
    have fresh : i ∉ before := by
      rw [split] at distinct
      obtain ⟨-, -, apart⟩ := List.nodup_append.mp distinct
      exact fun mem => apart i mem i List.mem_cons_self rfl
    obtain ⟨found, net, -⟩ := focus?_eq_some.mp there
    rw [refused.untouched fresh] at found
    have quiet := refused.sent_eq fun j mem =>
      whole j (split ▸ List.mem_append_left _ mem)
    refine Or.inl ⟨i, s.member, _, by simp [split], found, rfl, ?_⟩
    have sent := (Connection.sent_attempt taken).2
    rw [Connection.departed_of_ok (Focus.attempt_ok taken).1, net, quiet] at sent
    exact sent
  | exhausted refused =>
    rw [Nat.zero_add]
    exact Or.inr ⟨rfl, refused.sent_eq whole⟩

end Fleet

end PointRelay
