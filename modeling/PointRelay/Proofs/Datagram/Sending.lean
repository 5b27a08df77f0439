import PointRelay.Datagram
import PointRelay.Net.Loopback

/-!
# What a datagram connection sends

A datagram leaves as a whole or not at all, and one that left is gone. A write sends the datagrams
of its batch in order up to the first that does not leave, so a write that fails has sent those
before it. It is sure to have sent nothing only when the connection is closed or there is no more
than one datagram to send.
-/

namespace PointRelay

/-- Networks on which a datagram leaves as a whole or not at all, and requests are no datagrams. -/
class Sending (ω : Type) extends Net ω where
  /-- The datagrams that left with their addresses, newest first. -/
  sent : ω → List (String × List UInt8)
  sent_of_ok (address : String) (bytes : List UInt8) (net : ω) :
    (Net.send address bytes net).1 = .ok () →
      sent (Net.send address bytes net).2 = (address, bytes) :: sent net
  sent_of_error (address : String) (bytes : List UInt8) (net : ω) (why : String) :
    (Net.send address bytes net).1 = .error why → sent (Net.send address bytes net).2 = sent net
  sent_request (r : Request) (net : ω) : sent (Net.request r net).2 = sent net

instance : Sending Loopback where
  sent := Loopback.datagrams
  sent_of_ok address bytes n left := by
    change (Loopback.send address bytes n).1 = .ok () at left
    change (Loopback.send address bytes n).2.datagrams = _
    unfold Loopback.send at left ⊢
    split
    · rename_i tooLong
      rw [if_pos tooLong] at left
      cases left
    · rfl
  sent_of_error address bytes n why stayed := by
    change (Loopback.send address bytes n).1 = .error why at stayed
    change (Loopback.send address bytes n).2.datagrams = _
    unfold Loopback.send at stayed ⊢
    split
    · rfl
    · rename_i fits
      rw [if_neg fits] at stayed
      cases stayed
  sent_request r n := by
    change (Loopback.request r n).2.datagrams = _
    unfold Loopback.request
    split <;> rfl

/-- A network that lets a number of datagrams leave and answers no request. -/
structure Quota where
  rest : Nat
  sent : List (String × List UInt8)

instance : Sending Quota where
  request _ q := (.failed, q)
  connect _ q := (.ok (), q)
  send address bytes q :=
    match q.rest with
    | 0 => (.error "no more", q)
    | rest + 1 => (.ok (), ⟨rest, (address, bytes) :: q.sent⟩)
  sent := Quota.sent
  sent_of_ok address bytes q left := by
    obtain ⟨rest, sent⟩ := q
    cases rest with
    | zero => cases left
    | succ rest => rfl
  sent_of_error address bytes q why stayed := by
    obtain ⟨rest, sent⟩ := q
    cases rest with
    | zero => rfl
    | succ rest => cases stayed
  sent_request _ _ := rfl

namespace Datagram

variable {ω : Type} [Sending ω]

/-- How many datagrams leave before the first that does not. -/
def leaving (address : String) : List (List UInt8) → ω → Nat
  | [], _ => 0
  | bytes :: rest, net =>
    match (Net.send address bytes net).1 with
    | .ok () => leaving address rest (Net.send address bytes net).2 + 1
    | .error _ => 0

/-- Datagrams on their way to an address, newest first. -/
def addressed (address : String) (datagrams : List (List UInt8)) : List (String × List UInt8) :=
  (datagrams.map fun bytes => (address, bytes)).reverse

theorem leaving_le (address : String) (datagrams : List (List UInt8)) (net : ω) :
    leaving address datagrams net ≤ datagrams.length := by
  induction datagrams generalizing net with
  | nil => exact Nat.le_refl 0
  | cons bytes rest ih =>
    unfold leaving
    split
    · exact Nat.succ_le_succ (ih _)
    · exact Nat.zero_le _

section
variable {address : String} {bytes : List UInt8} {net : ω} (rest : List (List UInt8))

theorem first_leaves (left : (Net.send address bytes net).1 = .ok ()) :
    sendAll address (bytes :: rest) net = sendAll address rest (Net.send address bytes net).2 ∧
      leaving address (bytes :: rest) net =
        leaving address rest (Net.send address bytes net).2 + 1 := by
  rw [sendAll, leaving]
  rcases sent : Net.send address bytes net with ⟨answer, after⟩
  rw [sent] at left
  simp_all

theorem first_stays {why : String} (stayed : (Net.send address bytes net).1 = .error why) :
    sendAll address (bytes :: rest) net = (.error why, (Net.send address bytes net).2) ∧
      leaving address (bytes :: rest) net = 0 := by
  rw [sendAll, leaving]
  rcases sent : Net.send address bytes net with ⟨answer, after⟩
  rw [sent] at stayed
  simp_all

end

/-- Exactly the datagrams before the first that does not leave are sent. -/
theorem sent_sendAll (address : String) (datagrams : List (List UInt8)) (net : ω) :
    Sending.sent (sendAll address datagrams net).2 =
        addressed address (datagrams.take (leaving address datagrams net)) ++ Sending.sent net ∧
      ((sendAll address datagrams net).1 = .ok () ↔
        leaving address datagrams net = datagrams.length) := by
  induction datagrams generalizing net with
  | nil => exact ⟨rfl, by simp [sendAll, leaving]⟩
  | cons bytes rest ih =>
    cases answer : (Net.send address bytes net).1 with
    | error why =>
      obtain ⟨all, none⟩ := first_stays rest answer
      rw [all, none]
      exact ⟨Sending.sent_of_error address bytes net why answer, by simp⟩
    | ok =>
      obtain ⟨all, more⟩ := first_leaves rest answer
      obtain ⟨sent, whole⟩ := ih (Net.send address bytes net).2
      rw [all, more, sent, Sending.sent_of_ok address bytes net answer]
      refine ⟨by simp [addressed], ?_⟩
      rw [whole, List.length_cons]
      omega

/-- The datagrams of a batch. -/
def datagrams (b : Batch) (d : Datagram) : List (List UInt8) := Packing.pack d.payload b.lines

/-- How many datagrams of a batch leave. -/
def departing (b : Batch) (d : Datagram) (net : ω) : Nat :=
  if d.closed then 0 else leaving d.address (d.datagrams b) net

/-- A write sends the first datagrams of its batch, and all of them when it succeeds. -/
theorem sent_write (b : Batch) (d : Datagram) (net : ω) :
    Sending.sent (d.write b net).2 =
        addressed d.address ((d.datagrams b).take (d.departing b net)) ++ Sending.sent net ∧
      ((d.write b net).1 = .ok () ↔
        d.closed = false ∧ d.departing b net = (d.datagrams b).length) := by
  obtain ⟨sent, whole⟩ := sent_sendAll d.address (d.datagrams b) net
  unfold write departing
  cases d.closed with
  | true => simp [addressed]
  | false =>
    simp only [datagrams] at sent whole ⊢
    rcases result : sendAll d.address (Packing.pack d.payload b.lines) net with ⟨why | ⟨⟩, after⟩
    · rw [result] at sent whole
      exact ⟨sent, by simpa using whole⟩
    · rw [result] at sent whole
      exact ⟨sent, by simpa using whole⟩

/-- A connection that sends the whole batch at once or not at all. -/
def Whole (b : Batch) (d : Datagram) : Prop := d.closed = true ∨ (d.datagrams b).length ≤ 1

/-- A write that failed sent fewer datagrams than there are. -/
theorem departing_of_error {b : Batch} {d : Datagram} {net : ω} {e : ConnectionError}
    (failed : (d.write b net).1 = .error e) :
    d.departing b net = 0 ∨ d.departing b net < (d.datagrams b).length := by
  obtain ⟨-, whole⟩ := d.sent_write b net
  rw [failed] at whole
  unfold departing at whole ⊢
  cases closed : d.closed with
  | true => exact Or.inl rfl
  | false =>
    have some := leaving_le d.address (d.datagrams b) net
    simp only [closed, true_and] at whole
    have : leaving d.address (d.datagrams b) net ≠ (d.datagrams b).length :=
      fun all => by cases whole.mpr all
    exact Or.inr (by simp only [Bool.false_eq_true, if_false]; omega)

/-- A batch that is not sent at once has a first datagram, and others behind it. -/
theorem exists_datagrams {b : Batch} {d : Datagram} (parts : ¬ d.Whole b) :
    d.closed = false ∧ ∃ first second rest, d.datagrams b = first :: second :: rest := by
  obtain ⟨opened, several⟩ := not_or.mp parts
  refine ⟨Bool.eq_false_iff.mpr opened, ?_⟩
  match packed : d.datagrams b with
  | [] | [_] => simp [packed] at several
  | first :: second :: rest => exact ⟨first, second, rest, rfl⟩

/-- Such a write leaves its first datagram behind on a network that stops after one. -/
theorem write_on_quota {b : Batch} {d : Datagram} (parts : ¬ d.Whole b) :
    ∃ e first, (d.write b (⟨1, []⟩ : Quota)).1 = .error e ∧
      (d.write b (⟨1, []⟩ : Quota)).2 = ⟨0, [(d.address, first)]⟩ := by
  obtain ⟨opened, first, second, rest, split⟩ := exists_datagrams parts
  refine ⟨.io d.name "no more", first, ?_⟩
  unfold datagrams at split
  simp only [write, opened, split, Bool.false_eq_true, if_false]
  exact ⟨rfl, rfl⟩

/-- A write that fails sends nothing, whatever the network does, just when the batch goes into one
datagram. -/
theorem failure_sends_nothing_iff (b : Batch) (d : Datagram) :
    (∀ (ω : Type) [Sending ω] (net : ω) (e : ConnectionError), (d.write b net).1 = .error e →
      Sending.sent (d.write b net).2 = Sending.sent net) ↔ d.Whole b := by
  constructor
  · intro nothing
    refine Classical.byContradiction fun parts => ?_
    obtain ⟨e, first, failed, left⟩ := write_on_quota parts
    have none := nothing Quota ⟨1, []⟩ e failed
    rw [left] at none
    cases none
  · intro whole ω _ net e failed
    have none : d.departing b net = 0 := by
      rcases whole with closed | single
      · rw [departing, if_pos closed]
      · have := departing_of_error failed
        omega
    rw [(d.sent_write b net).1, none]
    rfl

end Datagram

end PointRelay
