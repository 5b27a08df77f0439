import Mathlib.Algebra.BigOperators.Group.List.Basic
import Mathlib.Algebra.GroupWithZero.Nat
import PointRelay.Journal

/-!
# Totals of counters

A monitor shows of a counter the sum of what the notes add to it. All counters but that of points go
up by one for each of their notes, so they show how many of these there are, wherever they stand in
the journal.
-/

namespace PointRelay

/-- What a measure adds to a counter. -/
def Measure.amount : Measure → Nat
  | .count n => n
  | .level _ | .sample _ | .timing => 0

/-- What a note adds to the counter of a series. -/
def Note.amount (s : Series) (n : Note) : Nat :=
  ((n.measures.filter (·.1 = s)).map fun x => x.2.amount).sum

/-- The counter that goes up by one for a note. -/
def Note.counter? : Note → Option Series
  | accepted endpoint => some (.writeAttempts "none" endpoint "success")
  | refused endpoint error =>
    some (.writeAttempts error.failureClass.text endpoint "failure")
  | recovered endpoint => some (.recoveries endpoint "success")
  | recoveryFailed endpoint _ _ => some (.recoveries endpoint "failure")
  | rebuilt => some (.rebuilds "success")
  | rebuildFailed _ => some (.rebuilds "failure")
  | batchWritten _ => some (.batches "success")
  | batchFailed _ _ => some (.batches "failure")
  | phaseChanged _ _ _ | excluded _ _ _ | excludedNotClosed _ _ | poolSize _ | encoded _
  | notClosed _ _ | replacedNotClosed _ => none

/-- A series whose measures only count. -/
def Series.Counts (s : Series) : Prop :=
  ∀ n : Note, ∀ x ∈ n.measures, x.1 = s → x.2 = .count x.2.amount

/-- A counter that goes up by one or stays as it is. -/
structure Series.ByOne (s : Series) : Prop where
  counter : s.name ∉ [poolSize.name, batchSize.name, attemptsPerWrite.name, latency.name]
  unit : s ≠ .points

namespace Metric

/-- The total of a counter, and nothing of other metrics. -/
def shown : Option Metric → Nat
  | some (.counter total) => total
  | _ => 0

/-- Nothing yet, or a counter. -/
def IsCount (m : Option Metric) : Prop := m = none ∨ ∃ total, m = some (.counter total)

theorem IsCount.add {m : Option Metric} (counts : IsCount m) (n : Nat) :
    IsCount (some (add m (.count n))) ∧ shown (some (add m (.count n))) = shown m + n := by
  rcases counts with rfl | ⟨total, rfl⟩
  · exact ⟨Or.inr ⟨n, rfl⟩, (Nat.zero_add n).symm⟩
  · exact ⟨Or.inr ⟨total + n, rfl⟩, rfl⟩

theorem shown_foldl {xs : List (Series × Measure)} (counts : ∀ x ∈ xs, x.2 = .count x.2.amount)
    {m : Option Metric} (begun : IsCount m) :
    shown (xs.foldl (fun m x => some (add m x.2)) m) =
      shown m + (xs.map fun x => x.2.amount).sum := by
  induction xs generalizing m with
  | nil => rfl
  | cons x rest ih =>
    obtain ⟨first, later⟩ := List.forall_mem_cons.mp counts
    obtain ⟨grown, total⟩ := begun.add x.2.amount
    rw [List.foldl_cons, first, ih later grown, total, List.map_cons, List.sum_cons, Nat.add_assoc]

end Metric

namespace Series

theorem byOne_writeAttempts (failureClass endpoint status : String) :
    (writeAttempts failureClass endpoint status).ByOne := by
  constructor
  · simp [writeAttempts, poolSize, batchSize, attemptsPerWrite, latency]
  · simp [writeAttempts, points]

theorem byOne_recoveries (endpoint status : String) : (recoveries endpoint status).ByOne := by
  constructor
  · simp [recoveries, poolSize, batchSize, attemptsPerWrite, latency]
  · simp [recoveries, points]

theorem byOne_batches (status : String) : (batches status).ByOne := by
  constructor
  · simp [batches, poolSize, batchSize, attemptsPerWrite, latency]
  · simp [batches, points]

/-- Four series are no counters, and no note counts them. All others are only counted. -/
theorem counts_of_name {s : Series}
    (other : s.name ∉ [poolSize.name, batchSize.name, attemptsPerWrite.name, latency.name]) :
    s.Counts := by
  rintro n ⟨s', m⟩ mem rfl
  cases n <;> simp only [Note.measures, List.mem_cons, List.not_mem_nil, Prod.mk.injEq,
    or_false] at mem
  case encoded points =>
    rcases mem with ⟨rfl, rfl⟩ | ⟨rfl, rfl⟩
    · rfl
    · exact absurd (by simp) other
  case batchWritten attempts | batchFailed attempts e =>
    rcases mem with ⟨rfl, rfl⟩ | ⟨rfl, rfl⟩ | ⟨rfl, rfl⟩
    · rfl
    · exact absurd (by simp) other
    · exact absurd (by simp) other
  case poolSize size =>
    obtain ⟨rfl, rfl⟩ := mem
    exact absurd (by simp) other
  all_goals
    obtain ⟨rfl, rfl⟩ := mem
    rfl

end Series

theorem Note.amount_eq {s : Series} (byOne : s.ByOne) (n : Note) :
    n.amount s = if n.counter? = some s then 1 else 0 := by
  obtain ⟨other, unit⟩ := byOne
  simp only [List.mem_cons, List.not_mem_nil, or_false, not_or] at other
  obtain ⟨size, batch, attempts, latency⟩ := other
  have size : Series.poolSize ≠ s := fun same => size (same ▸ rfl)
  have batch : Series.batchSize ≠ s := fun same => batch (same ▸ rfl)
  have attempts : Series.attemptsPerWrite ≠ s := fun same => attempts (same ▸ rfl)
  have latency : Series.latency ≠ s := fun same => latency (same ▸ rfl)
  have unit : Series.points ≠ s := unit.symm
  cases n <;> simp only [amount, measures, counter?, List.filter_cons, List.filter_nil, size, batch,
    attempts, latency, unit, decide_false, Bool.false_eq_true, if_false, List.map_nil, List.sum_nil,
    Option.some.injEq, decide_eq_true_eq, reduceCtorEq]
  all_goals split <;> rfl

namespace Journal

theorem total_eq_shown (j : Journal) (s : Series) : j.total s = Metric.shown (j.metric? s) := by
  unfold total Metric.shown
  cases j.metric? s with
  | none => rfl
  | some m => cases m <;> rfl

/-- What a counter shows is what the notes add to it. -/
theorem total_eq_sum {s : Series} (counts : s.Counts) (j : Journal) :
    j.total s = (j.map (Note.amount s)).sum := by
  have measured : ∀ x ∈ j.measures.filter (·.1 = s), x.2 = .count x.2.amount := by
    intro x mem
    obtain ⟨mem, same⟩ := List.mem_filter.mp mem
    obtain ⟨n, -, mem⟩ := List.mem_flatMap.mp mem
    exact counts n x mem (of_decide_eq_true same)
  have amounts : ∀ ns : List Note,
      (((ns.flatMap Note.measures).filter (·.1 = s)).map fun x => x.2.amount).sum =
        (ns.map (Note.amount s)).sum := by
    intro ns
    induction ns with
    | nil => rfl
    | cons n rest ih =>
      rw [List.flatMap_cons, List.filter_append, List.map_append, List.sum_append, ih]
      rfl
  rw [total_eq_shown, metric?, Metric.shown_foldl measured (Or.inl rfl), measures, amounts,
    List.map_reverse, List.sum_reverse]
  exact Nat.zero_add _

/-- How many notes a counter counts. -/
def counted (s : Series) (j : Journal) : Nat := j.countP fun n => n.counter? = some s

/-- A counter shows how many of its notes there are. -/
theorem total_eq_counted {s : Series} (byOne : s.ByOne) (j : Journal) :
    j.total s = j.counted s := by
  rw [total_eq_sum (Series.counts_of_name byOne.counter), counted]
  induction j with
  | nil => rfl
  | cons n rest ih =>
    rw [List.map_cons, List.sum_cons, ih, Note.amount_eq byOne, List.countP_cons,
      Nat.add_comm]
    simp only [decide_eq_true_eq]

/-- In which order things were noted does not show in a counter. -/
theorem total_of_perm {s : Series} (byOne : s.ByOne) {j k : Journal} (perm : j.Perm k) :
    j.total s = k.total s := by
  rw [total_eq_counted byOne, total_eq_counted byOne]
  exact perm.countP_eq _

end Journal

theorem FailureClass.text_inj {c d : FailureClass} : c.text = d.text ↔ c = d := by
  cases c <;> cases d <;> simp [FailureClass.text]

end PointRelay
