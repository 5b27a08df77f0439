import PointRelay.Proofs.Datagram.Dispatch
import PointRelay.Proofs.Point.Encoding

/-!
# Batches that leak

A datagram connection with more than one datagram to send leaks on a network that stops in between:
no member takes the batch, and yet a part of it has left. So that every datagram connection of the
pool sends the batch at once or not at all is needed as well as enough.
-/

namespace PointRelay

namespace Packing

theorem packInto_eq_nil {limit size : Nat} {current lines : List (List UInt8)}
    (packed : packInto limit current size lines = []) : current = [] ∧ lines = [] := by
  induction lines generalizing current size with
  | nil =>
    rw [packInto] at packed
    split at packed
    · rename_i empty
      exact ⟨List.isEmpty_iff.mp empty, rfl⟩
    · cases packed
  | cons line rest ih =>
    rw [packInto] at packed
    split at packed
    · cases packed
    · cases (ih packed).1

theorem pack_eq_nil {limit : Nat} {lines : List String} (packed : pack limit lines = []) :
    lines = [] :=
  List.map_eq_nil_iff.mp (packInto_eq_nil packed).2

end Packing

/-- No request is answered on a network that only lets datagrams leave. -/
theorem Stream.post_on_quota (url : Url) (params : List (String × String)) (body : String)
    (s : Stream) (q : Quota) : ∃ e, s.post url params body q = (.error e, q) := by
  simp only [post]
  split
  · exact ⟨_, rfl⟩
  · split
    · exact ⟨_, rfl⟩
    · exact ⟨_, rfl⟩

namespace Connection

/-- An attempt at a datagram connection that fails leaves the network as the write does. -/
theorem attempt_datagram {ω : Type} [Net ω] (database : String) {b : Batch} {d : Datagram}
    {s : Focus (Connection ω) ω} {e : ConnectionError} (link : s.member.transport = .datagram d)
    (failed : (d.write b s.net).1 = .error e) :
    ∃ t, s.attempt database b = (.error e, t) ∧ t.net = (d.write b s.net).2 := by
  have written : s.written b = ⟨(d.write b s.net).1, .datagram d, (d.write b s.net).2⟩ := by
    rw [Focus.written, link]
    rfl
  rcases trial : s.attempt database b with ⟨answer, t⟩
  have answered := Focus.attempt_answer database b s
  rw [trial, written] at answered
  obtain rfl : answer = .error e := answered.trans failed
  refine ⟨t, rfl, ?_⟩
  obtain ⟨-, -, ⟨-, -, net⟩ | ⟨-, -, net⟩⟩ := Focus.attempt_error trial
  · rw [net, written]
  · rw [net, Focus.recreated, written]
    rfl

theorem create_on_quota (database : String) (c : Connection Quota) (q : Quota) :
    (c.create database q).net = q := by
  cases c with
  | datagram d => rfl
  | stream s =>
    change (s.create database q).2 = q
    obtain ⟨e, posted⟩ := s.post_on_quota s.queryUrl [("q", Stream.creation database)] "" q
    rw [Stream.create, posted]
    split <;> rfl

/-- Once nothing more leaves, every connection refuses a batch and the network stays as it is. -/
theorem write_on_empty_quota {b : Batch} (something : b.lines ≠ []) (c : Connection Quota)
    (sent : List (String × List UInt8)) :
    ∃ e, (c.write b ⟨0, sent⟩).answer = .error e ∧ (c.write b ⟨0, sent⟩).net = ⟨0, sent⟩ := by
  cases c with
  | datagram d =>
    change ∃ e, (d.write b (⟨0, sent⟩ : Quota)).1 = .error e ∧
      (d.write b (⟨0, sent⟩ : Quota)).2 = ⟨0, sent⟩
    unfold Datagram.write
    split
    · exact ⟨_, rfl, rfl⟩
    · cases packed : Packing.pack d.payload b.lines with
      | nil => exact absurd (Packing.pack_eq_nil packed) something
      | cons first rest => exact ⟨_, rfl, rfl⟩
  | stream s =>
    change ∃ e, (s.write b (⟨0, sent⟩ : Quota)).1 = .error e ∧
      (s.write b (⟨0, sent⟩ : Quota)).2 = ⟨0, sent⟩
    obtain ⟨e, posted⟩ :=
      s.post_on_quota s.writeUrl (Stream.writeParams b.settings) b.body (⟨0, sent⟩ : Quota)
    unfold Stream.write
    split
    · exact ⟨_, rfl, rfl⟩
    · rw [posted]
      exact ⟨e, rfl, rfl⟩

/-- A creation changes no such network, so an attempt leaves it as the write does. -/
theorem net_attempt {database : String} {b : Batch} {s t : Focus (Connection Quota) Quota}
    {answer : Except ConnectionError Unit} (tried : s.attempt database b = (answer, t)) :
    t.net = (s.written b).net := by
  cases answer with
  | ok => exact (Focus.attempt_ok tried).2.2.2
  | error e =>
    obtain ⟨-, -, ⟨-, -, net⟩ | ⟨-, -, net⟩⟩ := Focus.attempt_error tried
    · exact net
    · exact net.trans (create_on_quota database (s.written b).transport (s.written b).net)

end Connection

namespace Fleet

/-- On a network on which nothing more leaves all members refuse. -/
theorem refused_on_empty_quota {b : Batch} (database : String) (something : b.lines ≠ [])
    (sent : List (String × List UInt8)) (places : List Nat)
    {f : Fleet (Connection Quota) Quota} (within : ∀ i ∈ places, i < f.members.length)
    (empty : f.net = ⟨0, sent⟩) : ∃ g, Refused database b places f g ∧ g.net = ⟨0, sent⟩ := by
  induction places generalizing f with
  | nil => exact ⟨f, .nil f, empty⟩
  | cons i rest ih =>
    obtain ⟨s, there⟩ := exists_focus (within i List.mem_cons_self)
    obtain ⟨e, refused, net⟩ :=
      Connection.write_on_empty_quota something s.member.transport sent
    rw [← empty, ← (focus?_eq_some.mp there).2.1] at refused net
    rcases trial : s.attempt database b with ⟨answer, t⟩
    obtain rfl : answer = .error e := by
      rw [← refused]
      exact (congrArg Prod.fst trial).symm.trans (Focus.attempt_answer database b s)
    have left : t.net = ⟨0, sent⟩ := by
      rw [Connection.net_attempt trial, ← empty, ← (focus?_eq_some.mp there).2.1]
      exact net
    obtain ⟨g, later, final⟩ := ih (f := f.put i t)
      (fun j mem => by simpa using within j (List.mem_cons_of_mem i mem)) left
    exact ⟨g, .cons there trial later, final⟩

/-- When a datagram connection of a pool does not send the batch at once, a dispatch can leave a
datagram behind although no member takes the batch. -/
theorem dispatch_leaks (database : String) {b : Batch} {f : Fleet (Connection Quota) Quota}
    {pool : List Nat} (within : ∀ i ∈ pool, i < f.members.length) {i : Nat} (mem : i ∈ pool)
    {m : Member (Connection Quota)} (found : f.members[i]? = some m) {d : Datagram}
    (link : m.transport = .datagram d) (parts : ¬ d.Whole b) (net : f.net = ⟨1, []⟩) :
    ∃ order, order.Perm (List.range pool.length) ∧
      (f.dispatch database b pool order).1 = .exhausted pool.length pool.length ∧
      (f.dispatch database b pool order).2.net.sent ≠ [] := by
  obtain ⟨k, at_k⟩ := List.getElem?_of_mem mem
  have bound : k ∈ List.range pool.length :=
    List.mem_range.mpr (List.getElem?_eq_some_iff.mp at_k).1
  have all : (k :: (List.range pool.length).erase k).Perm (List.range pool.length) :=
    (List.perm_cons_erase bound).symm
  refine ⟨k :: (List.range pool.length).erase k, all, ?_⟩
  -- The leaking connection is tried first; the network stops in its write, so all others refuse.
  have order := perm_places all
  rw [List.filterMap_cons_some at_k] at order
  generalize others : ((List.range pool.length).erase k).filterMap (fun k => pool[k]?) = rest
    at order
  have something : b.lines ≠ [] := by
    obtain ⟨-, first, second, more, split⟩ := Datagram.exists_datagrams parts
    intro none
    rw [Datagram.datagrams, none] at split
    cases split
  have there : f.focus? i = some ⟨m, f.net, f.journal⟩ := focus?_eq_some.mpr ⟨found, rfl, rfl⟩
  obtain ⟨e, first, failed, left⟩ := Datagram.write_on_quota parts
  rw [← net] at failed left
  obtain ⟨t, trial, after⟩ := Connection.attempt_datagram database
    (s := ⟨m, f.net, f.journal⟩) link failed
  rw [left] at after
  obtain ⟨g, later, final⟩ := refused_on_empty_quota database something [(d.address, first)] rest
    (f := f.put i t) (fun j mem => by
      simpa using within j (order.mem_iff.mp (List.mem_cons_of_mem i mem))) after
  have tried := tryAll_of_refused pool.length 0 (.cons there trial later)
  unfold dispatch
  rw [List.filterMap_cons_some at_k, others, tried, Nat.zero_add, order.length_eq, final]
  exact ⟨rfl, List.cons_ne_nil _ _⟩

end Fleet

/-! ## A line that fits into no datagram -/

theorem Text.Utf8.length_le_encode (cs : List Char) : cs.length ≤ (encode cs).length := by
  induction cs with
  | nil => exact Nat.le_refl 0
  | cons c rest ih =>
    have bytes : 1 ≤ (String.utf8EncodeChar c).length := by
      rw [String.length_utf8EncodeChar]
      exact c.utf8Size_pos
    simp only [encode, List.flatMap_cons, List.length_append, List.length_cons] at ih ⊢
    omega

theorem length_le_escaped (special cs : List Char) : cs.length ≤ (escaped special cs).length := by
  induction cs with
  | nil => exact Nat.le_refl 0
  | cons c rest ih =>
    simp only [escaped, List.flatMap_cons, List.length_append, List.length_cons] at ih ⊢
    split <;> simp only [List.length_cons, List.length_nil] <;> omega

/-- A line has at least as many bytes as its measurement has characters. -/
theorem Packing.length_lt_lineBytes (p : Point) :
    p.measurement.toList.length < (lineBytes p.line).length := by
  have escaped := length_le_escaped Line.nameSpecial p.measurement.toList
  have bytes := Text.Utf8.length_le_encode p.line.toList
  simp only [Point.line, String.toList_ofList, Line.ofPoint, List.length_append] at bytes
  simp only [lineBytes, Text.Utf8.ofString, List.length_append, List.length_singleton]
  simp only [Point.line, String.toList_ofList, Line.ofPoint]
  omega

/-- A line that fits goes out, and the write fails at the next one, which fits into no datagram. -/
theorem Datagram.write_oversize {b : Batch} {d : Datagram} {n : Loopback} {fitting large : String}
    (lines : b.lines = [fitting, large]) (opened : d.closed = false)
    (payload : d.payload ≤ Loopback.largestDatagram)
    (fits : (Packing.lineBytes fitting).length ≤ Loopback.largestDatagram)
    (tooLong : Loopback.largestDatagram < (Packing.lineBytes large).length) :
    d.write b n = (.error (.io d.name "Message too long (os error 90)"),
      { n with datagrams := (d.address, Packing.lineBytes fitting) :: n.datagrams }) := by
  have apart : d.payload <
      (Packing.lineBytes fitting).length + (Packing.lineBytes large).length := by
    omega
  have packed : Packing.pack d.payload b.lines =
      [Packing.lineBytes fitting, Packing.lineBytes large] := by
    simp [Packing.pack, Packing.packInto, lines, apart]
  have first : Net.send d.address (Packing.lineBytes fitting) n =
      (.ok (), { n with datagrams := (d.address, Packing.lineBytes fitting) :: n.datagrams }) :=
    if_neg (Nat.not_lt.mpr fits)
  have second : ∀ n : Loopback, Net.send d.address (Packing.lineBytes large) n =
      (.error "Message too long (os error 90)", n) := fun n => if_pos tooLong
  simp [write, opened, packed, sendAll, first, second]

def shortRecord : Record := (Record.new "cpu" ⟨1704067200, 0⟩).withField "v" (.integer 1)

/-- A record with a name of some length. -/
def longRecord (n : Nat) : Record :=
  (Record.new (String.ofList (List.replicate n 'x')) ⟨1704067200, 0⟩).withField "v" (.integer 1)

theorem faults_shortRecord : shortRecord.faults = [] := by
  decide

theorem faults_longRecord {n : Nat} (positive : 0 < n) : (longRecord n).faults = [] := by
  have some : String.ofList (List.replicate n 'x') ≠ "" := by
    intro empty
    have := congrArg (fun s => s.toList.length) empty
    simp at this
    omega
  have plain : Fault.ofText (String.ofList (List.replicate n 'x')) = [] := by
    simp [Fault.ofText, List.getLast?_replicate]
  have others := faults_shortRecord
  simp only [Record.faults, List.append_eq_nil_iff] at others ⊢
  obtain ⟨⟨⟨⟨⟨-, filled⟩, -⟩, tags⟩, fields⟩, time⟩ := others
  exact ⟨⟨⟨⟨⟨if_neg some, filled⟩, plain⟩, tags⟩, fields⟩, time⟩

theorem line_shortRecord : shortRecord.toPoint.line = "cpu v=1i 1704067200000000000" := by
  rfl

def wire : Datagram := ⟨"udp://127.0.0.1:8089", "127.0.0.1:8089", 512, false⟩

def plugged : Loopback := ⟨true, .empty, [], []⟩

/-- A pool of one datagram connection. -/
def wired : Fleet (Connection Loopback) Loopback :=
  ⟨[(Member.ready (.datagram wire)).1], plugged, []⟩

/-- A short record and one with a long name. -/
def uneven (n : Nat) : Batch :=
  ⟨⟨"telegraf", "", ""⟩, [shortRecord.toPoint, (longRecord n).toPoint]⟩

theorem write_uneven {n : Nat} (long : Loopback.largestDatagram ≤ n) :
    wire.write (uneven n) plugged =
      (.error (.io "udp://127.0.0.1:8089" "Message too long (os error 90)"),
        { plugged with datagrams :=
          [("127.0.0.1:8089", Packing.lineBytes "cpu v=1i 1704067200000000000")] }) := by
  have lines : (uneven n).lines =
      ["cpu v=1i 1704067200000000000", (longRecord n).toPoint.line] := by
    simp only [uneven, Batch.lines, List.map_cons, List.map_nil, line_shortRecord]
  have tooLong : Loopback.largestDatagram <
      (Packing.lineBytes (longRecord n).toPoint.line).length := by
    refine Nat.lt_of_le_of_lt ?_ (Packing.length_lt_lineBytes _)
    simpa [longRecord, Record.toPoint, Record.withField, Record.new] using long
  exact Datagram.write_oversize lines rfl (by decide) (by decide) tooLong

/-- A pool of one datagram connection whose write fails is exhausted, and keeps what left. -/
theorem dispatch_alone {ω : Type} [Net ω] (database : String) {b : Batch} {d : Datagram}
    {f : Fleet (Connection ω) ω} {m : Member (Connection ω)} {e : ConnectionError}
    (alone : f.members = [m]) (link : m.transport = .datagram d)
    (failed : (d.write b f.net).1 = .error e) :
    (f.dispatch database b [0] [0]).1 = .exhausted 1 1 ∧
      (f.dispatch database b [0] [0]).2.net = (d.write b f.net).2 := by
  have there : f.focus? 0 = some ⟨m, f.net, f.journal⟩ :=
    Fleet.focus?_eq_some.mpr ⟨by rw [alone]; rfl, rfl, rfl⟩
  obtain ⟨t, trial, net⟩ := Connection.attempt_datagram database
    (s := ⟨m, f.net, f.journal⟩) link failed
  have tried : f.dispatch database b [0] [0] = (.exhausted 1 1, f.put 0 t) :=
    Fleet.tryAll_of_refused 1 0 (.cons there trial (.nil _))
  rw [tried]
  exact ⟨rfl, net⟩

theorem dispatch_uneven {n : Nat} (long : Loopback.largestDatagram ≤ n) :
    (wired.dispatch "telegraf" (uneven n) [0] [0]).1 = .exhausted 1 1 ∧
      Sending.sent (wired.dispatch "telegraf" (uneven n) [0] [0]).2.net =
        [("127.0.0.1:8089", Packing.lineBytes "cpu v=1i 1704067200000000000")] := by
  have failed : (wire.write (uneven n) wired.net).1 = .error (.io "udp://127.0.0.1:8089"
      "Message too long (os error 90)") :=
    congrArg Prod.fst (write_uneven long)
  have left : Sending.sent (wire.write (uneven n) wired.net).2 =
      [("127.0.0.1:8089", Packing.lineBytes "cpu v=1i 1704067200000000000")] := by
    rw [show wired.net = plugged from rfl, write_uneven long]
    rfl
  obtain ⟨m, one, link⟩ : ∃ m, wired.members = [m] ∧ m.transport = .datagram wire := ⟨_, rfl, rfl⟩
  have alone := dispatch_alone "telegraf" one link failed
  exact ⟨alone.1, (congrArg Sending.sent alone.2).trans left⟩

/-- A write sends the first datagrams of its batch, and one that fails is sure to have sent nothing
just when the batch goes into one datagram. From a pool of such connections a batch leaves through
the member that is reported and through no other; any other pool can leak. -/
theorem batch_leaves_through_one_connection (b : Batch) (database : String) :
    (∀ (d : Datagram) (ω : Type) [Sending ω] (net : ω),
      Sending.sent (d.write b net).2 =
          Datagram.addressed d.address ((d.datagrams b).take (d.departing b net)) ++
            Sending.sent net ∧
        ((d.write b net).1 = .ok () ↔
          d.closed = false ∧ d.departing b net = (d.datagrams b).length)) ∧
    (∀ d : Datagram,
      (∀ (ω : Type) [Sending ω] (net : ω) (e : ConnectionError), (d.write b net).1 = .error e →
        Sending.sent (d.write b net).2 = Sending.sent net) ↔
      d.closed = true ∨ (Packing.pack d.payload b.lines).length ≤ 1) ∧
    (∀ (ω : Type) [Sending ω] (f : Fleet (Connection ω) ω) (pool order : List Nat),
      pool.Nodup → (∀ i ∈ pool, i < f.members.length) → order.Perm (List.range pool.length) →
      (∀ i ∈ pool, ∀ m, f.members[i]? = some m → m.transport.Whole b) →
      (∃ i m attempts, i ∈ pool ∧ f.members[i]? = some m ∧
        (f.dispatch database b pool order).1 = .delivered m.endpoint attempts ∧
        Sending.sent (f.dispatch database b pool order).2.net =
          m.transport.load b ++ Sending.sent f.net) ∨
      ((f.dispatch database b pool order).1 = .exhausted pool.length pool.length ∧
        Sending.sent (f.dispatch database b pool order).2.net = Sending.sent f.net)) ∧
    (∀ (f : Fleet (Connection Quota) Quota) (pool : List Nat),
      (∀ i ∈ pool, i < f.members.length) → f.net = ⟨1, []⟩ →
      (∃ i ∈ pool, ∃ m, f.members[i]? = some m ∧ ¬ m.transport.Whole b) →
      ∃ order, order.Perm (List.range pool.length) ∧
        (f.dispatch database b pool order).1 = .exhausted pool.length pool.length ∧
        Sending.sent (f.dispatch database b pool order).2.net ≠ Sending.sent f.net) := by
  refine ⟨fun d _ _ net => d.sent_write b net, fun d => d.failure_sends_nothing_iff b, ?_, ?_⟩
  · intro ω _ f pool order distinct within all whole
    obtain ⟨places, perm, tried⟩ := Fleet.tried_dispatch database b f all within
    have cases := tried.sent_cases (perm.nodup_iff.mpr distinct) fun i mem =>
      whole i (perm.mem_iff.mp mem)
    rw [perm.length_eq] at cases
    refine cases.imp_left ?_
    rintro ⟨i, m, attempts, mem, rest⟩
    exact ⟨i, m, attempts, perm.mem_iff.mp mem, rest⟩
  · rintro f pool within net ⟨i, mem, m, found, parts⟩
    obtain ⟨d, link, parts⟩ : ∃ d, m.transport = .datagram d ∧ ¬ d.Whole b := by
      simpa [Connection.Whole] using parts
    obtain ⟨order, all, exhausted, left⟩ :=
      Fleet.dispatch_leaks database within mem found link parts net
    exact ⟨order, all, exhausted, by rw [net]; exact left⟩

/-- Two short records, which fit into one datagram together. -/
def pair : Batch := ⟨⟨"telegraf", "", ""⟩, [shortRecord.toPoint, shortRecord.toPoint]⟩

/-- A pool of one connection whose datagrams hold a single line. -/
def narrow : Fleet (Connection Quota) Quota :=
  ⟨[(Member.ready (.datagram { wire with payload := 0 })).1], ⟨1, []⟩, []⟩

theorem pair_leaves_through_one_connection :
    ((∃ i m attempts, i ∈ [0] ∧ wired.members[i]? = some m ∧
        (wired.dispatch "telegraf" pair [0] [0]).1 = .delivered m.endpoint attempts ∧
        Sending.sent (wired.dispatch "telegraf" pair [0] [0]).2.net =
          m.transport.load pair ++ Sending.sent wired.net) ∨
      ((wired.dispatch "telegraf" pair [0] [0]).1 = .exhausted 1 1 ∧
        Sending.sent (wired.dispatch "telegraf" pair [0] [0]).2.net = Sending.sent wired.net)) ∧
    ∃ order, order.Perm (List.range 1) ∧
      (narrow.dispatch "telegraf" pair [0] order).1 = .exhausted 1 1 ∧
      Sending.sent (narrow.dispatch "telegraf" pair [0] order).2.net ≠ Sending.sent narrow.net := by
  obtain ⟨-, -, alone, leaks⟩ := batch_leaves_through_one_connection pair "telegraf"
  obtain ⟨m, one, link⟩ : ∃ m, wired.members = [m] ∧ m.transport = .datagram wire := ⟨_, rfl, rfl⟩
  obtain ⟨n, other, tight⟩ :
      ∃ n, narrow.members = [n] ∧ n.transport = .datagram { wire with payload := 0 } :=
    ⟨_, rfl, rfl⟩
  have first : ∀ i ∈ [0], i < 1 := by simp
  refine ⟨alone Loopback wired [0] [0] (by decide) (by rw [one]; exact first) (.refl _) ?_,
    leaks narrow [0] (by rw [other]; exact first) rfl ⟨0, List.mem_cons_self, n, ?_, ?_⟩⟩
  · intro i mem m' found d datagram
    rw [List.mem_singleton.mp mem, one] at found
    obtain rfl : m = m' := Option.some.inj found
    obtain rfl : wire = d := Connection.datagram.inj (link.symm.trans datagram)
    exact Or.inr (by decide)
  · rw [other]
    rfl
  · intro whole
    rcases whole _ tight with closed | single
    · cases closed
    · exact absurd single (by decide)

/-- The first of two lines leaves although the write fails, and although no member of the pool takes
the batch. -/
theorem oversize_line_leaves_a_datagram_behind :
    Batch.encode ⟨"telegraf", "", ""⟩ [shortRecord, longRecord 65507] = .ok (uneven 65507) ∧
    (∃ e, (wire.write (uneven 65507) plugged).1 = .error e) ∧
    Sending.sent (wire.write (uneven 65507) plugged).2 ≠ Sending.sent plugged ∧
    (wired.dispatch "telegraf" (uneven 65507) [0] [0]).1 = .exhausted 1 1 ∧
    Sending.sent (wired.dispatch "telegraf" (uneven 65507) [0] [0]).2.net ≠
      Sending.sent wired.net := by
  have long : Loopback.largestDatagram ≤ 65507 := Nat.le_refl _
  have encoded : Batch.encode ⟨"telegraf", "", ""⟩ [shortRecord, longRecord 65507] =
      .ok (uneven 65507) := by
    refine Batch.encode_of_faultless _ fun r mem => ?_
    rcases List.mem_cons.mp mem with rfl | mem
    · exact faults_shortRecord
    · rw [List.mem_singleton.mp mem]
      exact faults_longRecord (by omega)
  obtain ⟨exhausted, sent⟩ := dispatch_uneven long
  refine ⟨encoded, ⟨_, by rw [write_uneven long]⟩, ?_, exhausted, ?_⟩
  · rw [write_uneven long]
    exact List.cons_ne_nil _ _
  · rw [sent]
    exact List.cons_ne_nil _ _

end PointRelay
