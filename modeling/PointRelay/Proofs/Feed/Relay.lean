import PointRelay.Command.Session
import PointRelay.Proofs.Feed.Batching
import PointRelay.Proofs.Point.Encoding

/-!
# Relaying lines

While lines can be read, a feed hands every record over once and in order, and its counts say what
became of the batches. An output reports all points of a batch or none of them, so the points that
were written and the batches that failed make up the records. A session fails when a batch did.
-/

namespace PointRelay

open Stats Time

/-- A write that succeeds reports a point for each record. -/
theorem Output.points_of_write {φ τ ω : Type} [Transport τ ω] [Factory φ τ ω]
    {records : List Record} {o : Output φ τ ω} {r : Report}
    (written : (o.write records).1 = .ok r) : r.points = records.length := by
  cases encoded : Batch.encode o.settings records with
  | error refusal =>
    simp [write, encoded] at written
  | ok b =>
    obtain ⟨rfl, -⟩ := Batch.encode_ok encoded
    cases records with
    | nil =>
      obtain rfl : ⟨none, 0, 0⟩ = r := Except.ok.inj written
      rfl
    | cons first rest =>
      rw [write, encoded] at written
      simp only [Batch.isEmpty, List.map_cons, List.isEmpty_cons, Bool.false_eq_true,
        if_false] at written
      generalize ((o.note _).prepare.dispatch _) = dispatched at written
      obtain ⟨verdict, after⟩ := dispatched
      cases verdict with
      | delivered endpoint attempts =>
        obtain rfl := Except.ok.inj written
        simp [Batch.size]
      | exhausted attempted poolSize => cases written

/-- What is printed of batches that failed holds both counts. -/
theorem Command.Failure.text_ofBatches (failed total : Nat) :
    (Command.Failure.ofBatches failed total).text =
      "Error: " ++ toString failed ++ " of " ++ toString total ++
        " batch(es) failed to write\n" := by
  simp [ofBatches, plain, text, causeLines, String.append_assoc, String.join]

namespace Feed

theorem total_tallied (t : Tally Float) (answers : List (Except OutputError Report)) :
    (tallied t answers).total = t.total + answers.length := by
  induction answers generalizing t with
  | nil => rfl
  | cons answer rest ih =>
    have one : (t.record (outcome answer)).total = t.total + 1 := by
      cases answer <;> rfl
    rw [tallied, List.foldl_cons, ← tallied, ih, one, List.length_cons]
    omega

theorem failed_tallied (t : Tally Float) (answers : List (Except OutputError Report)) :
    (tallied t answers).failed = t.failed + answers.countP fun answer => !answer.isOk := by
  induction answers generalizing t with
  | nil => rfl
  | cons answer rest ih =>
    rw [tallied, List.foldl_cons, ← tallied, ih, List.countP_cons]
    cases answer with
    | ok r => rfl
    | error e =>
      simp only [outcome, Tally.record, Except.isOk, Except.toBool, Bool.not_false, if_true]
      omega

/-- The records in the batches whose answers are errors. -/
def lost (batches : List (List Record)) (answers : List (Except OutputError Report)) : Nat :=
  (((batches.zip answers).filter fun b => !b.2.isOk).map fun b => b.1.length).sum

/-- Where a success reports a point for each record, points and lost records make up all records. -/
theorem points_tallied {σ : Type} {write : List Record → σ → Except OutputError Report × σ}
    (honest : ∀ batch s r, (write batch s).1 = .ok r → r.points = batch.length) (t : Tally Float)
    (batches : List (List Record)) (s : σ) :
    (tallied t (handOver write batches s).1).points +
        lost batches (handOver write batches s).1 = t.points + batches.flatten.length := by
  induction batches generalizing t s with
  | nil => rfl
  | cons batch rest ih =>
    have later := ih (t.record (outcome (write batch s).1)) (write batch s).2
    rw [handOver, tallied, List.foldl_cons, ← tallied, List.flatten_cons, List.length_append]
    cases answer : (write batch s).1 with
    | ok r =>
      have points := honest batch s r answer
      rw [answer] at later
      simp only [lost, List.zip_cons_cons, Except.isOk, Except.toBool, Bool.not_true,
        Bool.false_eq_true, not_false_eq_true, List.filter_cons_of_neg] at later ⊢
      simp only [outcome, Tally.record] at later ⊢
      omega
    | error e =>
      rw [answer] at later
      simp only [lost, List.zip_cons_cons, Except.isOk, Except.toBool, Bool.not_false,
        List.filter_cons_of_pos, List.map_cons, List.sum_cons] at later ⊢
      simp only [outcome, Tally.record] at later ⊢
      omega

/-- A feed whose lines end, or that is asked to stop, hands all records of the lines read over, in
order, in batches of one size but for the last. It counts the lines that were no record, the batches
and those that failed; an output writes the points of all others. The session fails when a batch
did, and tells these counts. -/
theorem every_record_is_handed_over_once (size : Nat) (positive : 1 ≤ size) (now : Instant)
    (lines : Lines) (ended : lines.failure? = none) :
    ∃ batches : List (List Record),
      batches.flatten = records now lines.texts ∧
      (∀ front last, batches = front ++ [last] →
        (∀ batch ∈ front, batch.length = size) ∧ 1 ≤ last.length ∧ last.length ≤ size) ∧
      (∀ (σ : Type) (write : List Record → σ → Except OutputError Report × σ) (s : σ),
        ∃ f : Feed, run write size now lines .start s = (none, f, (handOver write batches s).2) ∧
          f.skipped = lines.texts.countP isMalformed ∧
          f.tally.total = batches.length ∧
          f.tally.failed = (handOver write batches s).1.countP fun answer => !answer.isOk) ∧
      (∀ (φ τ ω : Type) [Transport τ ω] [Factory φ τ ω] (o : Output φ τ ω),
        (run Output.write size now lines .start o).2.1.tally.points +
          lost batches (handOver Output.write batches o).1 = (records now lines.texts).length) ∧
      (∀ (ω : Type) [Net ω] (o : Command.Relay ω) (input : String),
        let f := (run Output.write size now lines .start o).2.1
        (Command.Session.relay lines input size now o).1 =
          if 0 < f.tally.failed then
            ⟨1, f.report, (Command.Failure.ofBatches f.tally.failed f.tally.total).text⟩
          else ⟨0, f.report, ""⟩) ∧
      ∀ failed total : Nat, (Command.Failure.ofBatches failed total).text =
        "Error: " ++ toString failed ++ " of " ++ toString total ++
          " batch(es) failed to write\n" := by
  obtain ⟨batches, left, handed, runs⟩ := exists_handed size now lines
  obtain ⟨-, rfl⟩ : lines.failure? = none ∧ left = [] := by
    rcases handed.rest with rest | ⟨failed, -⟩
    · exact rest
    · rw [ended] at failed
      cases failed
  have whole : batches.flatten = records now lines.texts := by
    simpa using handed.whole
  rw [ended] at runs
  refine ⟨batches, whole, ?_, ?_, ?_, ?_, Command.Failure.text_ofBatches⟩
  · have sizes := handed.sizes
    rwa [Nat.max_eq_right positive] at sizes
  · intro σ write s
    refine ⟨_, runs σ write s, rfl, ?_, ?_⟩
    · rw [total_tallied, length_handOver]
      exact Nat.zero_add _
    · rw [failed_tallied]
      exact Nat.zero_add _
  · intro φ τ ω _ _ o
    have honest : ∀ batch (o : Output φ τ ω) r, (o.write batch).1 = .ok r →
        r.points = batch.length :=
      fun _ _ _ => Output.points_of_write
    rw [runs, ← whole]
    exact (points_tallied honest .empty batches o).trans (Nat.zero_add _)
  · intro ω _ o input
    simp only [Command.Session.relay, runs, Command.Session.conclude, Nat.pos_iff_ne_zero]
    split <;> simp_all

/-- A line with a record of one field. -/
def oneField (name : String) : String :=
  "\x7b\"name\": \"" ++ name ++ "\", \"fields\": \x7b\"v\": 1\x7d\x7d"

/-- Three records between a blank line and one that is no record, and a request to stop before a
fourth. -/
def halted : Lines :=
  [.line (oneField "cpu"), .line "  ", .line (oneField "mem"), .line "not a record",
    .line (oneField "net"), .stop, .line (oneField "swap")]

/-- Takes the first batch and refuses all others. -/
def takeFirst (batch : List Record) (asked : List (List Record)) :
    Except OutputError Report × List (List Record) :=
  (if asked.isEmpty then .ok ⟨none, batch.length, 1⟩ else .error (.poolExhausted 1 1),
    asked ++ [batch])

theorem halted_feed_hands_over_three_records :
    1 ≤ 2 ∧ halted.failure? = none ∧
    (records ⟨0, 0⟩ halted.texts).map (·.name) = ["cpu", "mem", "net"] ∧
    ∃ (batches : List (List Record)) (f : Feed),
      batches.flatten = records ⟨0, 0⟩ halted.texts ∧
      run takeFirst 2 ⟨0, 0⟩ halted .start [] = (none, f, (handOver takeFirst batches []).2) ∧
      f.skipped = 1 ∧ f.tally.total = batches.length := by
  obtain ⟨batches, whole, -, runs, -⟩ :=
    every_record_is_handed_over_once 2 (by decide) ⟨0, 0⟩ halted (by decide)
  obtain ⟨f, ran, skipped, total, -⟩ := runs _ takeFirst []
  exact ⟨by decide, by decide, by decide +kernel, batches, f, whole, ran,
    skipped.trans (by decide +kernel), total⟩

end Feed

end PointRelay
