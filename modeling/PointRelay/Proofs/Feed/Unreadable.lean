import PointRelay.Proofs.Feed.Relay

/-!
# Lines that cannot be read

A line that cannot be read ends a feed at once, and the records that wait for their batch to fill
are never handed over. They are as many as the records read before leave over when they are cut into
batches, so nothing is lost only if these fill their batches.
-/

namespace PointRelay.Feed

open Time

/-- What is left behind is what the full batches leave over. -/
theorem Handed.length_left {size : Nat} {now : Instant} {lines : Lines}
    {batches : List (List Record)} {left : List Record}
    (handed : Handed size now lines batches left) :
    left.length =
      if lines.failure?.isSome then (records now lines.texts).length % max 1 size else 0 := by
  rcases handed.rest with ⟨ended, rfl⟩ | ⟨failed, sizes, short⟩
  · simp [ended]
  · have full : batches.flatten.length = batches.length * max 1 size := by
      rw [List.length_flatten, List.map_congr_left sizes, List.map_const', List.sum_replicate,
        smul_eq_mul]
    rw [if_pos failed, ← handed.whole, List.length_append, full, Nat.add_comm,
      Nat.add_mul_mod_self_right, Nat.mod_eq_of_lt short]

/-- However a feed ends, the records of the lines read are those handed over, in order, and behind
them those left behind, which are the rest of the last batch if a line cannot be read. So none is
lost if and only if the lines end, or a stop is asked for, or the records read fill their batches.
The session closes its output and tells the failure only. -/
theorem records_left_behind (size : Nat) (now : Instant) (lines : Lines) :
    ∃ (batches : List (List Record)) (left : List Record),
      batches.flatten ++ left = records now lines.texts ∧
      left.length =
        (if lines.failure?.isSome then (records now lines.texts).length % max 1 size else 0) ∧
      (left = [] ↔ lines.failure? = none ∨ max 1 size ∣ (records now lines.texts).length) ∧
      (∀ (σ : Type) (write : List Record → σ → Except OutputError Report × σ) (s : σ),
        ∃ f : Feed, f.batch = left ∧
          run write size now lines .start s = (lines.failure?, f, (handOver write batches s).2)) ∧
      (∀ (ω : Type) [Net ω] (o : Command.Relay ω) (input why : String),
        lines.failure? = some why →
        Command.Session.relay lines input size now o =
          (⟨1, "", (Command.Failure.ofInput input why).text⟩,
            (handOver Output.write batches o).2.close.2)) := by
  obtain ⟨batches, left, handed, runs⟩ := exists_handed size now lines
  refine ⟨batches, left, handed.whole, handed.length_left, ?_, ?_, ?_⟩
  · rw [← List.length_eq_zero_iff, handed.length_left, Nat.dvd_iff_mod_eq_zero]
    cases lines.failure? <;> simp
  · intro σ write s
    exact ⟨_, rfl, runs σ write s⟩
  · intro ω _ o input why failed
    rw [failed] at runs
    rw [Command.Session.relay, runs]

/-- Three records and a line that cannot be read. -/
def cutShort : Lines :=
  [.line (oneField "cpu"), .line (oneField "mem"), .line (oneField "net"), .unreadable "broken"]

theorem one_of_three_records_left_behind :
    cutShort.failure? = some "broken" ∧ (records ⟨0, 0⟩ cutShort.texts).length = 3 ∧
    ∃ (batches : List (List Record)) (left : List Record),
      batches.flatten ++ left = records ⟨0, 0⟩ cutShort.texts ∧ left.length = 1 ∧
      ∀ (ω : Type) [Net ω] (o : Command.Relay ω),
        Command.Session.relay cutShort "-" 2 ⟨0, 0⟩ o =
          (⟨1, "", (Command.Failure.ofInput "-" "broken").text⟩,
            (handOver Output.write batches o).2.close.2) := by
  have three : (records ⟨0, 0⟩ cutShort.texts).length = 3 := by decide +kernel
  obtain ⟨batches, left, whole, size, -, -, session⟩ := records_left_behind 2 ⟨0, 0⟩ cutShort
  refine ⟨rfl, three, batches, left, whole, ?_, fun ω _ o => session ω o "-" "broken" rfl⟩
  rw [size, three]
  rfl

/-- A line with a record, and behind it one that is not UTF-8. -/
def brokenOff : List UInt8 := Text.Utf8.ofString (oneField "cpu" ++ "\n") ++ [0xFF, 10]

theorem record_before_broken_line_is_never_handed_over :
    (records ⟨0, 0⟩ (Lines.ofBytes brokenOff).texts).map (·.name) = ["cpu"] ∧
    (run takeFirst 1000 ⟨0, 0⟩ (Lines.ofBytes brokenOff) .start []).1 =
      some "invalid utf-8 sequence of 1 bytes from index 0" ∧
    (run takeFirst 1000 ⟨0, 0⟩ (Lines.ofBytes brokenOff) .start []).2.2 = [] := by
  exact ⟨by decide +kernel, by decide +kernel, by decide +kernel⟩

end PointRelay.Feed
