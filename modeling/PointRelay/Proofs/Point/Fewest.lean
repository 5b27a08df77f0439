import Mathlib.Algebra.GroupWithZero.Nat
import PointRelay.Proofs.Point.Packing

/-!
# The fewest datagrams

Lines can be cut in many ways into consecutive runs, each of which may travel in one datagram.
Packing goes on with a run for as long as the next line fits, and no other cut has fewer runs. The
two are followed line by line through the runs of the other cut: at the end of each of them packing
has closed at most as many runs, whatever run it has in the making.
-/

namespace PointRelay.Packing

section
variable {α : Type} (bytes : α → List UInt8) {limit : Nat}

/-- There is room for the next item behind a run that began within one that goes on with it. -/
theorem room_within_run {current taken later : List α} {item : α} (begun : current <:+ taken)
    (started : current ≠ []) (fits : Fits bytes limit (taken ++ item :: later)) :
    ((current ++ [item]).flatMap bytes).length ≤ limit := by
  obtain ⟨before, rfl⟩ := begun
  rcases fits with small | single
  · simp only [List.flatMap_append, List.flatMap_cons, List.flatMap_nil, List.length_append,
      List.length_nil] at small ⊢
    omega
  · have several : current.length ≠ 0 := fun none => started (List.length_eq_zero_iff.mp none)
    simp only [List.length_append, List.length_cons] at single
    omega

/-- Another cut stands within one of its runs, with `taken` behind and `remaining` ahead. Packing
closes at most one run in what remains, and none if the one in the making began within that run. -/
theorem length_runsFrom_within {items : List α} {n : Nat}
    (behind : ∀ current, (runsFrom bytes limit current items).length ≤ n + 1)
    {taken remaining : List α} (fits : Fits bytes limit (taken ++ remaining)) (current : List α) :
    (runsFrom bytes limit current (remaining ++ items)).length ≤ n + 2 ∧
      (current <:+ taken →
        (runsFrom bytes limit current (remaining ++ items)).length ≤ n + 1) := by
  induction remaining generalizing taken current with
  | nil => exact ⟨Nat.le_succ_of_le (behind current), fun _ => behind current⟩
  | cons item remaining ih =>
    have onward : Fits bytes limit ((taken ++ [item]) ++ remaining) := by
      simpa using fits
    rw [List.cons_append, runsFrom]
    split
    · rename_i closed
      -- What is in the making now began with the item, within the run of the other cut.
      have opened := (ih onward [item]).2 (List.suffix_append taken [item])
      constructor
      · exact Nat.succ_le_succ opened
      · intro begun
        simp only [Bool.and_eq_true, Bool.not_eq_true', List.isEmpty_eq_false_iff,
          decide_eq_true_eq] at closed
        have room := room_within_run bytes begun closed.1 fits
        omega
    · obtain ⟨any, within⟩ := ih onward (current ++ [item])
      constructor
      · exact any
      · rintro ⟨before, rfl⟩
        exact within ⟨before, (List.append_assoc before current [item]).symm⟩

/-- At the end of each run of another cut, packing has closed no more runs than that. -/
theorem length_runsFrom_le {others : List (List α)}
    (fit : ∀ run ∈ others, Fits bytes limit run) (current : List α) :
    (runsFrom bytes limit current others.flatten).length ≤ others.length + 1 := by
  induction others generalizing current with
  | nil =>
    rw [List.flatten_nil, runsFrom]
    split <;> simp
  | cons run others ih =>
    obtain ⟨first, fit⟩ := List.forall_mem_cons.mp fit
    have whole : Fits bytes limit ([] ++ run) := first
    exact (length_runsFrom_within bytes (ih fit) whole current).1

/-- No cut into runs that fit has fewer runs, whether or not some of its runs are empty. -/
theorem length_runs_le {others : List (List α)} (fit : ∀ run ∈ others, Fits bytes limit run) :
    (runs bytes limit others.flatten).length ≤ others.length := by
  cases others with
  | nil => exact Nat.le_refl 0
  | cons run others =>
    obtain ⟨first, fit⟩ := List.forall_mem_cons.mp fit
    have whole : Fits bytes limit ([] ++ run) := first
    exact (length_runsFrom_within bytes (length_runsFrom_le bytes fit) whole []).2 List.suffix_rfl

end

theorem length_lineBytes (line : String) : (lineBytes line).length = line.utf8ByteSize + 1 := by
  have bytes : (Text.Utf8.ofString line).length = line.toList.utf8Encode.size :=
    List.size_toByteArray.symm
  rw [lineBytes, List.length_append, bytes, String.utf8Encode_toList]
  rfl

theorem length_flatMap_lineBytes (run : List String) :
    (run.flatMap lineBytes).length = (run.map fun line => line.utf8ByteSize + 1).sum := by
  rw [List.length_flatMap]
  exact congrArg List.sum (List.map_congr_left fun line _ => length_lineBytes line)

/-- The datagrams carry the runs of a cut, and no cut of the lines into consecutive runs, each of
them a single line or within the limit, has fewer runs than there are datagrams. -/
theorem no_cut_has_fewer_runs (limit : Nat) (lines : List String) :
    (∃ runs : List (List String), runs.flatten = lines ∧
      (∀ run ∈ runs, run.length = 1 ∨
        (run.map fun line => line.utf8ByteSize + 1).sum ≤ limit) ∧
      pack limit lines = runs.map (·.flatMap lineBytes)) ∧
    ∀ runs : List (List String), runs.flatten = lines →
      (∀ run ∈ runs, run.length = 1 ∨
        (run.map fun line => line.utf8ByteSize + 1).sum ≤ limit) →
      (pack limit lines).length ≤ runs.length := by
  constructor
  · have cut := cut_runs lineBytes limit lines
    refine ⟨_, cut.whole, fun run mem => ?_, pack_eq limit lines⟩
    rw [← length_flatMap_lineBytes]
    exact (cut.fits run mem).symm
  · rintro others rfl fit
    rw [pack_eq, List.length_map]
    apply length_runs_le
    intro run mem
    rw [Fits, length_flatMap_lineBytes]
    exact (fit run mem).symm

/-- A line that is too long for any datagram between short ones, some of which fit together. -/
def crowded : List String := ["ab", "cd", "a line of its own", "ef", "gh", "ij"]

def crowdedRuns : List (List String) :=
  [["ab"], ["cd"], ["a line of its own"], ["ef"], ["gh", "ij"]]

theorem crowded_cut_has_no_fewer_runs :
    crowdedRuns.flatten = crowded ∧
    (∀ run ∈ crowdedRuns, run.length = 1 ∨
      (run.map fun line => line.utf8ByteSize + 1).sum ≤ 6) ∧
    (pack 6 crowded).length = 4 ∧ (pack 6 crowded).length ≤ crowdedRuns.length := by
  have fit : ∀ run ∈ crowdedRuns, run.length = 1 ∨
      (run.map fun line => line.utf8ByteSize + 1).sum ≤ 6 := by
    decide +kernel
  exact ⟨rfl, fit, by decide +kernel, (no_cut_has_fewer_runs 6 crowded).2 crowdedRuns rfl fit⟩

end PointRelay.Packing
