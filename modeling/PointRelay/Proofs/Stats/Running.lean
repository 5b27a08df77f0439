import Mathlib
import PointRelay.Stats.Running

/-!
# Running statistics of exact numbers

One value at a time, running statistics come to what is computed from all values at once: their
least, greatest and mean value, and the sum of the squares of what they are away from that mean. The
recurrence takes a value's distance once from the old mean and once from the new one. Measured from
another point than the mean, the sum of squares grows by the square of that point's distance for
every value, and this is what the product of the two distances makes up for.
-/

namespace PointRelay.Stats

/-- Exact numbers in place of doubles. -/
instance : Scalar ℚ where
  ofCount n := n
  least := min
  greatest := max

/-- The mean value, zero of no values. -/
def average (xs : List ℚ) : ℚ := if xs = [] then 0 else xs.sum / xs.length

/-- The squares of the distances from a point, summed. -/
def squaresFrom (c : ℚ) (xs : List ℚ) : ℚ := (xs.map fun x => (x - c) ^ 2).sum

/-- The squares of the distances from the mean over the number of values less one. -/
def sampleVariance (xs : List ℚ) : ℚ :=
  if xs.length < 2 then 0 else squaresFrom (average xs) xs / (xs.length - 1)

/-- The statistics of values that are all at hand. -/
def Spread.ofValues (xs : List ℚ) : Spread ℚ :=
  ⟨xs.length, xs.min?.getD 0, xs.max?.getD 0, average xs, sampleVariance xs⟩

/-! ### One more value -/

theorem average_mul_length (xs : List ℚ) : average xs * xs.length = xs.sum := by
  by_cases none : xs = []
  · simp [none]
  · have several : (xs.length : ℚ) ≠ 0 := by simpa using none
    rw [average, if_neg none, div_mul_cancel₀ _ several]

theorem average_concat (xs : List ℚ) (x : ℚ) :
    average (xs ++ [x]) = average xs + (x - average xs) / (xs.length + 1) := by
  have several : (xs.length + 1 : ℚ) ≠ 0 := by positivity
  have whole := average_mul_length (xs ++ [x])
  rw [List.sum_append, List.sum_singleton, ← average_mul_length xs, List.length_append,
    List.length_singleton, Nat.cast_add, Nat.cast_one] at whole
  rw [eq_div_of_mul_eq several whole]
  field_simp
  ring

theorem squaresFrom_concat (c : ℚ) (xs : List ℚ) (x : ℚ) :
    squaresFrom c (xs ++ [x]) = squaresFrom c xs + (x - c) ^ 2 := by
  simp [squaresFrom]

/-- Measured from another point than the mean, every value adds the square of its distance. -/
theorem squaresFrom_eq (c : ℚ) (xs : List ℚ) :
    squaresFrom c xs = squaresFrom (average xs) xs + xs.length * (average xs - c) ^ 2 := by
  have expand : ∀ (m : ℚ) (ys : List ℚ), squaresFrom c ys =
      squaresFrom m ys + 2 * (m - c) * (ys.sum - ys.length * m) + ys.length * (m - c) ^ 2 := by
    intro m ys
    induction ys with
    | nil => simp [squaresFrom]
    | cons y ys ih =>
      simp only [squaresFrom, List.map_cons, List.sum_cons, List.length_cons] at ih ⊢
      rw [ih]
      push_cast
      ring
  rw [expand (average xs) xs, ← average_mul_length xs]
  ring

/-- One distance from the old mean times one from the new makes up for the move of the mean. -/
theorem squaresFrom_average_concat (xs : List ℚ) (x : ℚ) :
    squaresFrom (average (xs ++ [x])) (xs ++ [x]) =
      squaresFrom (average xs) xs + (x - average xs) * (x - average (xs ++ [x])) := by
  have several : (xs.length + 1 : ℚ) ≠ 0 := by positivity
  rw [squaresFrom_concat, squaresFrom_eq, average_concat]
  field_simp
  ring

theorem min?_concat (xs : List ℚ) (x : ℚ) :
    (xs ++ [x]).min?.getD 0 = if xs = [] then x else min (xs.min?.getD 0) x := by
  cases xs with
  | nil => rfl
  | cons first rest =>
    rw [List.cons_append, List.min?_cons', List.min?_cons', List.foldl_append]
    simp

theorem max?_concat (xs : List ℚ) (x : ℚ) :
    (xs ++ [x]).max?.getD 0 = if xs = [] then x else max (xs.max?.getD 0) x := by
  cases xs with
  | nil => rfl
  | cons first rest =>
    rw [List.cons_append, List.max?_cons', List.max?_cons', List.foldl_append]
    simp

/-! ### All values -/

namespace Running

/-- What running statistics have come to when they have seen some values. -/
structure Saw (s : Running ℚ) (xs : List ℚ) : Prop where
  count : s.count = xs.length
  mean : s.mean = average xs
  deviations : s.deviations = squaresFrom (average xs) xs
  min : s.min = xs.min?.getD 0
  max : s.max = xs.max?.getD 0

theorem saw_nothing : Saw empty [] := ⟨rfl, rfl, rfl, rfl, rfl⟩

theorem Saw.push {s : Running ℚ} {xs : List ℚ} (saw : s.Saw xs) (x : ℚ) :
    (s.push x).Saw (xs ++ [x]) := by
  by_cases first : xs = []
  · subst first
    have begun : s.push x = ⟨1, x, 0, x, x⟩ := by
      simp only [Running.push, saw.count, List.length_nil, if_true]
      rfl
    rw [begun]
    refine ⟨rfl, ?_, ?_, rfl, rfl⟩
    · simp [average]
    · simp [squaresFrom, average]
  · have several : s.count ≠ 0 := by
      rw [saw.count]
      exact fun none => first (List.length_eq_zero_iff.mp none)
    have mean : s.mean + (x - s.mean) / ((s.count + 1 : Nat) : ℚ) = average (xs ++ [x]) := by
      rw [average_concat, saw.mean, saw.count, Nat.cast_add, Nat.cast_one]
    have later : s.push x = ⟨s.count + 1, average (xs ++ [x]),
        s.deviations + (x - s.mean) * (x - average (xs ++ [x])),
        Min.min s.min x, Max.max s.max x⟩ := by
      rw [← mean]
      simp only [Running.push, if_neg several]
      rfl
    rw [later]
    constructor
    · simp [saw.count]
    · rfl
    · rw [squaresFrom_average_concat, saw.deviations, saw.mean]
    · rw [min?_concat, if_neg first, saw.min]
    · rw [max?_concat, if_neg first, saw.max]

theorem Saw.variance {s : Running ℚ} {xs : List ℚ} (saw : s.Saw xs) :
    s.variance = sampleVariance xs := by
  unfold Running.variance sampleVariance
  rw [saw.count, saw.deviations]
  split
  · rfl
  · rename_i two
    have one : ((xs.length - 1 : Nat) : ℚ) = xs.length - 1 := Nat.cast_pred (by omega)
    rw [← one]
    rfl

theorem Saw.spread {s : Running ℚ} {xs : List ℚ} (saw : s.Saw xs) :
    s.spread = Spread.ofValues xs := by
  rw [Running.spread, saw.count, saw.min, saw.max, saw.mean, saw.variance]
  rfl

end Running

/-! ### The order of the values -/

theorem average_of_perm {xs ys : List ℚ} (perm : xs.Perm ys) : average xs = average ys := by
  by_cases none : xs = []
  · subst none
    rw [List.nil_perm.mp perm]
  · have other : ys ≠ [] := by
      rintro rfl
      exact none (List.perm_nil.mp perm)
    rw [average, average, if_neg none, if_neg other, perm.sum_eq, perm.length_eq]

theorem sampleVariance_of_perm {xs ys : List ℚ} (perm : xs.Perm ys) :
    sampleVariance xs = sampleVariance ys := by
  have squares : squaresFrom (average xs) xs = squaresFrom (average ys) ys := by
    rw [average_of_perm perm]
    exact (perm.map _).sum_eq
  rw [sampleVariance, sampleVariance, squares, perm.length_eq]

theorem min?_of_perm {xs ys : List ℚ} (perm : xs.Perm ys) : xs.min? = ys.min? := by
  apply Option.ext
  intro a
  rw [List.min?_eq_some_iff, List.min?_eq_some_iff, perm.mem_iff]
  simp only [perm.mem_iff]

theorem max?_of_perm {xs ys : List ℚ} (perm : xs.Perm ys) : xs.max? = ys.max? := by
  apply Option.ext
  intro a
  rw [List.max?_eq_some_iff, List.max?_eq_some_iff, perm.mem_iff]
  simp only [perm.mem_iff]

theorem Spread.ofValues_of_perm {xs ys : List ℚ} (perm : xs.Perm ys) :
    Spread.ofValues xs = Spread.ofValues ys := by
  unfold Spread.ofValues
  rw [perm.length_eq, min?_of_perm perm, max?_of_perm perm, average_of_perm perm,
    sampleVariance_of_perm perm]

end PointRelay.Stats
