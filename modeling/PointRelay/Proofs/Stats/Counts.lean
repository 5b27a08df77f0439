import Mathlib
import PointRelay.Dict

/-!
# Counts of names

How often each of some names occurs can be computed from all of them or one by one. Dictionaries of
counts are compared key by key, for a dictionary is known by what is found in it.
-/

namespace PointRelay

namespace Dict

variable {α : Type}

theorem mem_entries_iff {d : Dict α} {k : String} {v : α} :
    (k, v) ∈ d.entries ↔ d.find? k = some v := by
  refine ⟨fun mem => ?_, mem_of_find?⟩
  obtain ⟨before, after, split⟩ := List.append_of_mem mem
  have ordered := d.ordered
  unfold Ordered at ordered
  rw [split] at ordered
  have others : ∀ e ∈ before, (e.1 == k) = false := by
    intro e there
    have below : e.1 < k := (List.pairwise_append.mp ordered).2.2 e there (k, v) List.mem_cons_self
    exact beq_eq_false_iff_ne.mpr fun same => String.lt_irrefl k (same ▸ below)
  rw [find?, split, List.find?_append, List.find?_eq_none.mpr (by simpa using others)]
  simp

/-- A dictionary is known by what is found in it. -/
theorem eq_of_find? {d d' : Dict α} (same : ∀ k, d.find? k = d'.find? k) : d = d' := by
  have distinct : ∀ d : Dict α, d.entries.Nodup := by
    intro d
    refine List.Pairwise.imp ?_ d.ordered
    rintro a b below rfl
    exact String.lt_irrefl _ below
  have members : ∀ e, e ∈ d.entries ↔ e ∈ d'.entries := by
    rintro ⟨k, v⟩
    rw [mem_entries_iff, mem_entries_iff, same]
  have perm := (List.perm_ext_iff_of_nodup (distinct d) (distinct d')).mpr members
  have entries : d.entries = d'.entries :=
    perm.eq_of_pairwise (fun a b _ _ below above => absurd above (String.lt_asymm below))
      d.ordered d'.ordered
  cases d
  cases d'
  simpa using entries

theorem find?_ofList_map (f : String → α) (keys : List String) (k : String) :
    (ofList (keys.map fun key => (key, f key))).find? k =
      if k ∈ keys then some (f k) else none := by
  have folded : ∀ d : Dict α,
      ((keys.map fun key => (key, f key)).foldl (fun d e => d.insert e.1 e.2) d).find? k =
        if k ∈ keys then some (f k) else d.find? k := by
    induction keys with
    | nil => simp
    | cons key rest ih =>
      intro d
      rw [List.map_cons, List.foldl_cons, ih, find?_insert]
      by_cases later : k ∈ rest
      · simp [later]
      · by_cases here : k = key <;> simp [later, here]
  exact folded empty

/-- One more for a key is one more in all. -/
theorem sum_insertEntry {k : String} {es : List (String × Nat)} (ordered : Ordered es) :
    ((insertEntry k (((es.find? fun e => e.1 == k).map Prod.snd).getD 0 + 1) es).map Prod.snd).sum =
      (es.map Prod.snd).sum + 1 := by
  induction es with
  | nil => rfl
  | cons e rest ih =>
    obtain ⟨first, n⟩ := e
    obtain ⟨below, ordered⟩ := List.pairwise_cons.mp ordered
    unfold insertEntry
    split
    · rename_i before
      have absent : ∀ e ∈ (first, n) :: rest, ¬(e.1 == k) = true := by
        intro e mem same
        obtain rfl : e.1 = k := by simpa using same
        rcases List.mem_cons.mp mem with rfl | mem
        · exact String.lt_irrefl _ before
        · exact String.lt_asymm before (below e mem)
      rw [List.find?_eq_none.mpr absent]
      simp [Nat.add_comm]
    · rename_i notBefore
      split
      · rename_i behind
        have other : first ≠ k := fun same => String.lt_irrefl k (same ▸ behind)
        rw [List.find?_cons_of_neg (by simpa using other), List.map_cons, List.sum_cons,
          ih ordered, List.map_cons, List.sum_cons, Nat.add_assoc]
      · rename_i notBehind
        obtain rfl : k = first := String.le_antisymm notBehind notBefore
        simp only [List.find?_cons, beq_self_eq_true, Option.map_some, Option.getD_some,
          List.map_cons, List.sum_cons]
        omega

end Dict

namespace Stats

/-- How often each name occurs, without the names that do not. -/
def countsOf (names : List String) : Dict Nat :=
  Dict.ofList (names.map fun name => (name, names.count name))

theorem find?_countsOf (names : List String) (k : String) :
    (countsOf names).find? k = if k ∈ names then some (names.count k) else none :=
  Dict.find?_ofList_map (fun name => names.count name) names k

theorem countsOf_of_perm {names others : List String} (perm : names.Perm others) :
    countsOf names = countsOf others := by
  apply Dict.eq_of_find?
  intro k
  rw [find?_countsOf, find?_countsOf, perm.count_eq]
  simp only [perm.mem_iff]

end Stats

end PointRelay
