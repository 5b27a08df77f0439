import PointRelay.Proofs.Stats.Counts
import PointRelay.Proofs.Stats.Running
import PointRelay.Stats.Text

/-!
# The tally of batches that are all at hand

Whatever a tally is told, its summary is what can be computed directly from the batches that ended
since the last reset, and their order does not matter to it.
-/

namespace PointRelay.Stats

/-! ### What is computed from batches that are all at hand -/

namespace Outcome

variable {α : Type}

def isFailure : Outcome α → Bool
  | success _ _ _ _ => false
  | failure _ => true

def points : Outcome α → Nat
  | success _ points _ _ => points
  | failure _ => 0

def attempts? : Outcome α → Option Nat
  | success _ _ attempts _ => some attempts
  | failure _ => none

def endpoint? : Outcome α → Option String
  | success endpoint _ _ _ => some endpoint
  | failure _ => none

def latency : Outcome α → α
  | success _ _ _ latency | failure latency => latency

end Outcome

/-- The endpoints that took a batch, once for each batch. -/
def takers {α : Type} (ended : List (Outcome α)) : List String :=
  ended.filterMap Outcome.endpoint?

/-- The attempts that the written batches took. -/
def attemptsOf {α : Type} (ended : List (Outcome α)) : List ℚ :=
  (ended.filterMap Outcome.attempts?).map Nat.cast

/-- The summary of batches that are all at hand. -/
def Summary.ofOutcomes (ended : List (Outcome ℚ)) : Summary ℚ where
  total := ended.length
  failed := ended.countP Outcome.isFailure
  points := (ended.map Outcome.points).sum
  failureRate :=
    if ended = [] then 0 else 100 * (ended.countP Outcome.isFailure : ℚ) / ended.length
  attempts := Spread.ofValues (attemptsOf ended)
  latency := Spread.ofValues (ended.map Outcome.latency)
  byEndpoint := countsOf (takers ended)

/-- In what order batches ended does not show. -/
theorem Summary.ofOutcomes_of_perm {ended others : List (Outcome ℚ)} (perm : ended.Perm others) :
    Summary.ofOutcomes ended = Summary.ofOutcomes others := by
  have taken : (takers ended).Perm (takers others) := perm.filterMap _
  have attempts : (attemptsOf ended).Perm (attemptsOf others) := (perm.filterMap _).map _
  have none : ended = [] ↔ others = [] := by
    rw [← List.length_eq_zero_iff, perm.length_eq, List.length_eq_zero_iff]
  unfold Summary.ofOutcomes
  rw [countsOf_of_perm taken, perm.length_eq, perm.countP_eq, (perm.map _).sum_eq,
    Spread.ofValues_of_perm attempts, Spread.ofValues_of_perm (perm.map Outcome.latency)]
  simp only [none]

/-- The batch that an entry tells of. -/
def Entry.ended? {α : Type} : Entry α → Option (Outcome α)
  | batch ended => some ended
  | reset => none

/-- The batches that ended behind the last reset, in order. -/
def sinceReset {α : Type} (entries : List (Entry α)) : List (Outcome α) :=
  (entries.rtakeWhile fun e => e.ended?.isSome).filterMap Entry.ended?

theorem sinceReset_batch {α : Type} (entries : List (Entry α)) (o : Outcome α) :
    sinceReset (entries ++ [.batch o]) = sinceReset entries ++ [o] := by
  rw [sinceReset, List.rtakeWhile_concat_pos _ _ _ rfl, List.filterMap_append]
  rfl

theorem sinceReset_reset {α : Type} (entries : List (Entry α)) :
    sinceReset (entries ++ [.reset]) = [] := by
  rw [sinceReset, List.rtakeWhile_concat_neg _ _ _ (by simp [Entry.ended?])]
  rfl

/-! ### What the tally keeps -/

namespace Tally

/-- What a tally has come to when it was told of some batches. -/
structure Saw (t : Tally ℚ) (ended : List (Outcome ℚ)) : Prop where
  total : t.total = ended.length
  failed : t.failed = ended.countP Outcome.isFailure
  points : t.points = (ended.map Outcome.points).sum
  attempts : t.attempts.Saw (attemptsOf ended)
  latency : t.latency.Saw (ended.map Outcome.latency)
  byEndpoint : ∀ k, t.byEndpoint.find? k =
    if k ∈ takers ended then some ((takers ended).count k) else none
  written : (t.byEndpoint.entries.map Prod.snd).sum + t.failed = t.total

theorem saw_nothing : Saw .empty [] where
  total := rfl
  failed := rfl
  points := rfl
  attempts := Running.saw_nothing
  latency := Running.saw_nothing
  byEndpoint _ := rfl
  written := rfl

theorem countFor_eq (d : Dict Nat) (k : String) : countFor d k = (d.find? k).getD 0 := rfl

theorem Saw.countFor {t : Tally ℚ} {ended : List (Outcome ℚ)} (saw : t.Saw ended) (k : String) :
    countFor t.byEndpoint k = (takers ended).count k := by
  rw [countFor_eq, saw.byEndpoint]
  by_cases taken : k ∈ takers ended
  · simp [taken]
  · simp [taken, List.count_eq_zero_of_not_mem]

theorem Saw.success {t : Tally ℚ} {ended : List (Outcome ℚ)} (saw : t.Saw ended)
    (endpoint : String) (points attempts : Nat) (latency : ℚ) :
    (t.record (.success endpoint points attempts latency)).Saw
      (ended ++ [.success endpoint points attempts latency]) := by
  have taken : takers (ended ++ [.success endpoint points attempts latency]) =
      takers ended ++ [endpoint] := by
    simp [takers, Outcome.endpoint?]
  have tried : attemptsOf (ended ++ [.success endpoint points attempts latency]) =
      attemptsOf ended ++ [(attempts : ℚ)] := by
    simp [attemptsOf, Outcome.attempts?]
  constructor
  · simp [record, saw.total]
  · simp [record, saw.failed, Outcome.isFailure]
  · simp [record, saw.points, Outcome.points]
  · rw [tried]
    exact saw.attempts.push _
  · rw [List.map_append]
    exact saw.latency.push _
  · intro k
    simp only [record, Dict.find?_insert, saw.countFor, saw.byEndpoint, taken, List.mem_append,
      List.mem_singleton, List.count_append, List.count_singleton]
    by_cases here : k = endpoint
    · simp [here]
    · simp [here, Ne.symm here]
  · have more := Dict.sum_insertEntry (k := endpoint) t.byEndpoint.ordered
    have before := saw.written
    simp only [record, Dict.insert, countFor_eq, Dict.find?] at more ⊢
    omega

theorem Saw.failure {t : Tally ℚ} {ended : List (Outcome ℚ)} (saw : t.Saw ended) (latency : ℚ) :
    (t.record (.failure latency)).Saw (ended ++ [.failure latency]) := by
  have taken : takers (ended ++ [.failure latency]) = takers ended := by
    simp [takers, Outcome.endpoint?]
  have tried : attemptsOf (ended ++ [.failure latency]) = attemptsOf ended := by
    simp [attemptsOf, Outcome.attempts?]
  constructor
  · simp [record, saw.total]
  · simp [record, saw.failed, Outcome.isFailure]
  · simp [record, saw.points, Outcome.points]
  · rw [tried]
    exact saw.attempts
  · rw [List.map_append]
    exact saw.latency.push _
  · rw [taken]
    exact saw.byEndpoint
  · have before := saw.written
    simp only [record]
    omega

/-- A tally has seen the batches behind the last reset. -/
theorem saw_sinceReset (entries : List (Entry ℚ)) :
    (ofEntries entries).Saw (sinceReset entries) := by
  induction entries using List.reverseRecOn with
  | nil => exact saw_nothing
  | append_singleton entries e ih =>
    rw [ofEntries, List.foldl_concat, ← ofEntries]
    cases e with
    | batch ended =>
      rw [sinceReset_batch]
      cases ended with
      | success endpoint points attempts latency =>
        exact ih.success endpoint points attempts latency
      | failure latency => exact ih.failure latency
    | reset =>
      rw [sinceReset_reset]
      exact saw_nothing

theorem Saw.summary {t : Tally ℚ} {ended : List (Outcome ℚ)} (saw : t.Saw ended) :
    t.summary = Summary.ofOutcomes ended := by
  have rate : t.failureRate = (Summary.ofOutcomes ended).failureRate := by
    unfold failureRate Summary.ofOutcomes
    rw [saw.total, saw.failed]
    by_cases none : ended = []
    · simp only [none, List.length_nil, if_true]
      rfl
    · have some : ended.length ≠ 0 := fun zero => none (List.length_eq_zero_iff.mp zero)
      rw [if_neg some, if_neg none]
      change (ended.countP Outcome.isFailure : ℚ) / (ended.length : ℚ) * ((100 : Nat) : ℚ) = _
      push_cast
      ring
  have byEndpoint : t.byEndpoint = (Summary.ofOutcomes ended).byEndpoint := by
    apply Dict.eq_of_find?
    intro k
    rw [saw.byEndpoint, Summary.ofOutcomes, find?_countsOf]
  rw [Tally.summary, rate, byEndpoint, saw.total, saw.failed, saw.points, saw.attempts.spread,
    saw.latency.spread]
  rfl

/-- The summary of a tally is computed from the batches that ended since the last reset. Their order
does not matter, and the counts of the endpoints make up the batches that did not fail. In doubles a
standard deviation is the root of the variance. -/
theorem summary_of_batches_since_reset (entries : List (Entry ℚ)) :
    (ofEntries entries).summary = Summary.ofOutcomes (sinceReset entries) ∧
      ((ofEntries entries).summary.byEndpoint.entries.map Prod.snd).sum =
        (ofEntries entries).summary.total - (ofEntries entries).summary.failed ∧
      (∀ others : List (Entry ℚ), (sinceReset others).Perm (sinceReset entries) →
        (ofEntries others).summary = (ofEntries entries).summary) ∧
      ∀ s : Running Float, s.spread.stdDev = s.spread.variance.sqrt := by
  have saw := saw_sinceReset entries
  refine ⟨saw.summary, ?_, fun others perm => ?_, fun _ => rfl⟩
  · have written := saw.written
    simp only [summary]
    omega
  · rw [(saw_sinceReset others).summary, saw.summary, Summary.ofOutcomes_of_perm perm]

/-- Batches around a reset, two of them written by one endpoint. -/
def interrupted : List (Entry ℚ) :=
  [.batch (.success "a" 7 1 40), .reset, .batch (.success "a" 10 1 (3 / 2)), .batch (.failure 12),
    .batch (.success "b" 5 4 7), .batch (.success "a" 1 1 (3 / 2))]

/-- The batches behind the reset in another order, and nothing before them. -/
def uninterrupted : List (Entry ℚ) :=
  [.batch (.failure 12), .batch (.success "a" 1 1 (3 / 2)), .batch (.success "a" 10 1 (3 / 2)),
    .batch (.success "b" 5 4 7)]

theorem interrupted_summary_of_batches_since_reset :
    (sinceReset uninterrupted).Perm (sinceReset interrupted) ∧
      (ofEntries uninterrupted).summary = (ofEntries interrupted).summary ∧
      (ofEntries interrupted).summary.latency = ⟨4, 3 / 2, 12, 11 / 2, 51 / 2⟩ ∧
      (ofEntries interrupted).summary.byEndpoint.entries = [("a", 2), ("b", 1)] := by
  have perm : (sinceReset uninterrupted).Perm (sinceReset interrupted) := by
    decide +kernel
  refine ⟨perm, (summary_of_batches_since_reset interrupted).2.2.1 _ perm, ?_, ?_⟩
  · decide +kernel
  · decide +kernel

end Tally

end PointRelay.Stats
