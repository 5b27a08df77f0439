/-!
# Runs of characters and joined texts

A run of characters of one kind is told from what follows it by that kind alone. Texts joined with
a separator are the first of them and each later one behind a separator.
-/

namespace PointRelay.Text

/-- A run ends where the first character of another kind stands. -/
theorem takeWhile_run {p : Char → Bool} {run rest : List Char} (inside : ∀ c ∈ run, p c = true)
    (stop : ∀ c ∈ rest.head?, p c = false) :
    (run ++ rest).takeWhile p = run ∧ (run ++ rest).dropWhile p = rest := by
  rw [List.takeWhile_append_of_pos inside, List.dropWhile_append_of_pos inside]
  cases rest with
  | nil => simp
  | cons c r => simp [stop c rfl]

/-- What begins with a character of another kind adds nothing to a run in front of it. -/
theorem takeWhile_append_of_stop {p : Char → Bool} {rest : List Char}
    (stop : ∀ c ∈ rest.head?, p c = false) (front : List Char) :
    (front ++ rest).takeWhile p = front.takeWhile p := by
  induction front with
  | nil =>
    have nothing : ∀ c ∈ ([] : List Char), p c = true := fun _ mem => nomatch mem
    exact (takeWhile_run nothing stop).1
  | cons c front ih => rw [List.cons_append, List.takeWhile_cons, List.takeWhile_cons, ih]

/-- A text is split at the first occurrence of a character in one way only. -/
theorem split_unique {c : Char} {front front' r r' : List Char} (single : c ∉ front)
    (single' : c ∉ front') (same : front ++ c :: r = front' ++ c :: r') :
    front = front' ∧ r = r' := by
  have other : ∀ {cs : List Char}, c ∉ cs → ∀ d ∈ cs, decide (d ≠ c) = true :=
    fun without d mem => decide_eq_true fun equal => without (equal ▸ mem)
  have stop : ∀ r : List Char, ∀ d ∈ (c :: r).head?, decide (d ≠ c) = false := by simp
  obtain ⟨taken, dropped⟩ := takeWhile_run (other single) (stop r)
  obtain ⟨taken', dropped'⟩ := takeWhile_run (other single') (stop r')
  rw [same] at taken dropped
  exact ⟨taken.symm.trans taken', (List.cons.inj (dropped.symm.trans dropped')).2⟩

theorem toList_intercalate_cons (separator first : String) (later : List String) :
    (separator.intercalate (first :: later)).toList =
      first.toList ++ later.flatMap fun s => separator.toList ++ s.toList := by
  induction later generalizing first with
  | nil => simp
  | cons s later ih =>
    rw [String.intercalate_cons_cons, String.toList_append, String.toList_append, ih s]
    simp

end PointRelay.Text
