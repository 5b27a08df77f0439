import PointRelay.Feed

/-!
# Batches of a feed

Which batches a feed hands over depends on the lines alone and not on what becomes of them: the
records of the lines that were read, in order, cut into batches of the given size. When the lines
end or the feed is asked to stop, what is left makes a last batch. When a line cannot be read, what
is left stays behind.
-/

namespace PointRelay

open Stats Time

namespace Lines

/-- The lines that are read. -/
def texts : Lines → List String
  | .line text :: rest => text :: texts rest
  | [] | .unreadable _ :: _ | .stop :: _ => []

/-- Why reading fails, if it does. -/
def failure? : Lines → Option String
  | .line _ :: rest => failure? rest
  | .unreadable why :: _ => some why
  | [] | .stop :: _ => none

end Lines

namespace Feed

/-- The record of a line, if it is one. -/
def record? (now : Instant) (line : String) : Option Record :=
  if Text.trimmed line = "" then none
  else (Record.readLine? (Text.trimmed line)).map (·.at now)

def records (now : Instant) (texts : List String) : List Record := texts.filterMap (record? now)

/-- A line that is neither blank nor a record. -/
def isMalformed (line : String) : Bool :=
  Text.trimmed line ≠ "" && (Record.readLine? (Text.trimmed line)).isNone

/-- The tally after the answers to some batches. -/
def tallied (t : Tally Float) (answers : List (Except OutputError Report)) : Tally Float :=
  answers.foldl (fun t answer => t.record (outcome answer)) t

section
variable {σ : Type} (write : List Record → σ → Except OutputError Report × σ)

/-- Hand batches over one after another, and collect the answers. -/
def handOver : List (List Record) → σ → List (Except OutputError Report) × σ
  | [], s => ([], s)
  | batch :: rest, s =>
    ((write batch s).1 :: (handOver rest (write batch s).2).1,
      (handOver rest (write batch s).2).2)

theorem length_handOver (batches : List (List Record)) (s : σ) :
    (handOver write batches s).1.length = batches.length := by
  induction batches generalizing s with
  | nil => rfl
  | cons batch rest ih => rw [handOver, List.length_cons, ih, List.length_cons]

theorem handOver_append (early late : List (List Record)) (s : σ) :
    handOver write (early ++ late) s =
      ((handOver write early s).1 ++ (handOver write late (handOver write early s).2).1,
        (handOver write late (handOver write early s).2).2) := by
  induction early generalizing s with
  | nil => rfl
  | cons batch rest ih => simp only [List.cons_append, handOver, ih]

theorem takeLine_of_none {size : Nat} {now : Instant} {line : String} (f : Feed) (s : σ)
    (other : record? now line = none) :
    f.takeLine write size now line s =
      ({ f with skipped := f.skipped + if isMalformed line then 1 else 0 }, s) := by
  unfold record? at other
  unfold takeLine isMalformed
  split at other
  · rename_i blank
    simp [blank]
  · rename_i something
    have malformed : Record.readLine? (Text.trimmed line) = none :=
      Option.map_eq_none_iff.mp other
    simp [something, malformed]

theorem takeLine_of_some {size : Nat} {now : Instant} {line : String} {r : Record} (f : Feed)
    (s : σ) (found : record? now line = some r) :
    isMalformed line = false ∧ f.takeLine write size now line s = f.add write size r s := by
  unfold record? at found
  unfold takeLine isMalformed
  split at found
  · cases found
  · rename_i something
    obtain ⟨w, read, rfl⟩ := Option.map_eq_some_iff.mp found
    simp [something, read]

end

/-- Records cut into batches of a size, and a rest too short for one. -/
structure Split (size : Nat) (records : List Record) (full : List (List Record))
    (rest : List Record) : Prop where
  whole : full.flatten ++ rest = records
  sizes : ∀ batch ∈ full, batch.length = size
  short : rest.length < size

/-- A full batch in front. -/
theorem Split.cons {size : Nat} {batch records rest : List Record} {full : List (List Record)}
    (sized : batch.length = size) (later : Split size records full rest) :
    Split size (batch ++ records) (batch :: full) rest where
  whole := by rw [List.flatten_cons, List.append_assoc, later.whole]
  sizes other mem := by
    rcases List.mem_cons.mp mem with rfl | mem
    · exact sized
    · exact later.sizes other mem
  short := later.short

/-- Where nothing waits, there is room for a record. -/
theorem nothing_short (size : Nat) : ([] : List Record).length < max 1 size :=
  Nat.lt_of_lt_of_le Nat.zero_lt_one (Nat.le_max_left 1 size)

/-- A feed in which some records wait hands over the full batches of those and the records of its
lines. -/
theorem run_split (size : Nat) (now : Instant) (lines : Lines) {waiting : List Record}
    (short : waiting.length < max 1 size) :
    ∃ full rest, Split (max 1 size) (waiting ++ records now lines.texts) full rest ∧
      ∀ (σ : Type) (write : List Record → σ → Except OutputError Report × σ) (s : σ)
        (skipped : Nat) (tally : Tally Float),
        let f : Feed := ⟨rest, skipped + lines.texts.countP isMalformed,
          tallied tally (handOver write full s).1⟩
        run write size now lines ⟨waiting, skipped, tally⟩ s =
          if lines.failure?.isSome then (lines.failure?, f, (handOver write full s).2)
          else (none, f.finish write (handOver write full s).2) := by
  -- The batches are chosen before the output is, so that they cannot depend on its answers.
  induction lines generalizing waiting with
  | nil =>
    exact ⟨[], waiting, ⟨by simp [records, Lines.texts], by simp, short⟩, fun _ _ _ _ _ => rfl⟩
  | cons reading rest ih =>
    cases reading with
    | stop =>
      exact ⟨[], waiting, ⟨by simp [records, Lines.texts], by simp, short⟩, fun _ _ _ _ _ => rfl⟩
    | unreadable why =>
      exact ⟨[], waiting, ⟨by simp [records, Lines.texts], by simp, short⟩, fun _ _ _ _ _ => rfl⟩
    | line text =>
      cases content : record? now text with
      | none =>
        obtain ⟨full, left, split, runs⟩ := ih short
        refine ⟨full, left, ?_, fun σ write s skipped tally => ?_⟩
        · simpa [records, Lines.texts, content] using split
        · have count := Nat.add_right_comm skipped (if isMalformed text then 1 else 0)
            ((Lines.texts rest).countP isMalformed)
          rw [run, takeLine_of_none write _ s content]
          simp only [runs, Lines.texts, Lines.failure?, List.countP_cons, count, Nat.add_assoc]
      | some r =>
        by_cases full_now : size ≤ (waiting ++ [r]).length
        · -- The record makes the batch full, and the next one begins empty.
          obtain ⟨full, left, split, runs⟩ := ih (nothing_short size)
          have sized : (waiting ++ [r]).length = max 1 size := by
            rw [List.length_append, List.length_singleton] at full_now ⊢
            omega
          refine ⟨(waiting ++ [r]) :: full, left, ?_, fun σ write s skipped tally => ?_⟩
          · simpa [records, Lines.texts, content] using split.cons sized
          · obtain ⟨proper, taken⟩ := takeLine_of_some write ⟨waiting, skipped, tally⟩ s content
            rw [run, taken, add]
            simp only [if_pos full_now, flush, runs, Lines.texts, Lines.failure?,
              List.countP_cons, proper, handOver, tallied, List.foldl_cons]
            rfl
        · have room : (waiting ++ [r]).length < max 1 size := by omega
          obtain ⟨full, left, split, runs⟩ := ih room
          refine ⟨full, left, ?_, fun σ write s skipped tally => ?_⟩
          · simpa [records, Lines.texts, content] using split
          · obtain ⟨proper, taken⟩ := takeLine_of_some write ⟨waiting, skipped, tally⟩ s content
            rw [run, taken, add]
            simp only [if_neg full_now, runs, Lines.texts, Lines.failure?, List.countP_cons, proper]
            rfl

/-- Batches of a size, but for a last one that may be smaller and is not empty. -/
def EvenlySized (size : Nat) (batches : List (List Record)) : Prop :=
  ∀ front last, batches = front ++ [last] →
    (∀ batch ∈ front, batch.length = size) ∧ 1 ≤ last.length ∧ last.length ≤ size

theorem Split.evenlySized {size : Nat} {records rest : List Record} {full : List (List Record)}
    (split : Split size records full rest) (positive : 1 ≤ size) : EvenlySized size full := by
  rintro front last rfl
  have sized := split.sizes last (by simp)
  exact ⟨fun batch mem => split.sizes batch (List.mem_append_left _ mem), by omega, by omega⟩

/-- The rest may go behind the full batches if there is one. -/
theorem Split.evenlySized_append {size : Nat} {records rest : List Record}
    {full : List (List Record)} (split : Split size records full rest) (some : rest ≠ []) :
    EvenlySized size (full ++ [rest]) := by
  intro front last same
  obtain ⟨rfl, rfl⟩ := List.append_singleton_inj.mp same
  have := List.length_pos_iff.mpr some
  have := split.short
  exact ⟨split.sizes, by omega, by omega⟩

/-- What a feed hands over of some lines, and what it leaves behind. -/
structure Handed (size : Nat) (now : Instant) (lines : Lines) (batches : List (List Record))
    (left : List Record) : Prop where
  whole : batches.flatten ++ left = records now lines.texts
  sizes : EvenlySized (max 1 size) batches
  /-- Nothing is left behind, or a line cannot be read and what is left makes no batch. -/
  rest : (lines.failure? = none ∧ left = []) ∨
    (lines.failure?.isSome ∧ (∀ batch ∈ batches, batch.length = max 1 size) ∧
      left.length < max 1 size)

/-- A feed hands the batches of its lines over, whatever becomes of them. -/
theorem exists_handed (size : Nat) (now : Instant) (lines : Lines) :
    ∃ batches left, Handed size now lines batches left ∧
      ∀ (σ : Type) (write : List Record → σ → Except OutputError Report × σ) (s : σ),
        run write size now lines .start s =
          (lines.failure?,
            ⟨left, lines.texts.countP isMalformed,
              tallied .empty (handOver write batches s).1⟩,
            (handOver write batches s).2) := by
  obtain ⟨full, rest, split, runs⟩ := run_split size now lines (nothing_short size)
  rw [List.nil_append] at split
  have even := split.evenlySized (by omega)
  cases failure : lines.failure? with
  | some why =>
    refine ⟨full, rest, ⟨split.whole, even, Or.inr ⟨by rw [failure]; rfl, split.sizes,
      split.short⟩⟩, fun σ write s => ?_⟩
    have ran := runs σ write s 0 .empty
    rw [failure] at ran
    simpa [start] using ran
  | none =>
    by_cases empty : rest = []
    · subst empty
      refine ⟨full, [], ⟨split.whole, even, Or.inl ⟨failure, rfl⟩⟩, fun σ write s => ?_⟩
      have ran := runs σ write s 0 .empty
      rw [failure] at ran
      simpa [start, finish] using ran
    · refine ⟨full ++ [rest], [], ⟨by simpa using split.whole, split.evenlySized_append empty,
        Or.inl ⟨failure, rfl⟩⟩, fun σ write s => ?_⟩
      have ran := runs σ write s 0 .empty
      rw [failure] at ran
      simpa [start, finish, empty, flush, handOver_append, handOver, tallied] using ran

end Feed

end PointRelay
