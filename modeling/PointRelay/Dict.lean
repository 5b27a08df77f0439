/-!
# Sorted dictionaries

Entries ordered by key, each key once. Keys compare by their characters, which is the order of
their UTF-8 bytes. Inserting a key that is present replaces its value.
-/

namespace PointRelay

/-- Every entry's key is below the keys after it. -/
def Dict.Ordered {α : Type} (entries : List (String × α)) : Prop :=
  entries.Pairwise fun a b => a.1 < b.1

structure Dict (α : Type) where
  entries : List (String × α)
  ordered : Dict.Ordered entries

namespace Dict

variable {α : Type}

instance [DecidableEq α] : DecidableEq (Dict α) := fun a b =>
  decidable_of_iff (a.entries = b.entries) (by cases a; cases b; simp)

instance [Repr α] : Repr (Dict α) := ⟨fun d n => reprPrec d.entries n⟩

def empty : Dict α := ⟨[], .nil⟩

instance : Inhabited (Dict α) := ⟨empty⟩

def insertEntry (k : String) (v : α) : List (String × α) → List (String × α)
  | [] => [(k, v)]
  | (k', v') :: r =>
    if k < k' then (k, v) :: (k', v') :: r
    else if k' < k then (k', v') :: insertEntry k v r
    else (k', v) :: r

/-- A key of the result is the new key or an old one. -/
theorem key_of_mem_insertEntry {k : String} {v : α} {es : List (String × α)} {e : String × α}
    (h : e ∈ insertEntry k v es) : e.1 = k ∨ ∃ e' ∈ es, e'.1 = e.1 := by
  induction es with
  | nil => simp only [insertEntry, List.mem_singleton] at h; exact .inl (by rw [h])
  | cons e' r ih =>
    obtain ⟨k', v'⟩ := e'
    simp only [insertEntry] at h
    split at h
    · rcases List.mem_cons.1 h with rfl | h
      · exact .inl rfl
      · exact .inr ⟨e, h, rfl⟩
    · split at h
      · rcases List.mem_cons.1 h with rfl | h
        · exact .inr ⟨_, List.mem_cons_self, rfl⟩
        · rcases ih h with h | ⟨e', he, hk⟩
          · exact .inl h
          · exact .inr ⟨e', List.mem_cons_of_mem _ he, hk⟩
      · rcases List.mem_cons.1 h with rfl | h
        · exact .inr ⟨_, List.mem_cons_self, rfl⟩
        · exact .inr ⟨e, List.mem_cons_of_mem _ h, rfl⟩

theorem ordered_insertEntry (k : String) (v : α) {es : List (String × α)} (h : Ordered es) :
    Ordered (insertEntry k v es) := by
  induction es with
  | nil => exact List.pairwise_singleton _ _
  | cons e r ih =>
    obtain ⟨k', v'⟩ := e
    obtain ⟨hk, hr⟩ := List.pairwise_cons.1 h
    simp only [insertEntry]
    split
    · rename_i hlt
      refine List.pairwise_cons.2 ⟨fun e he => ?_, h⟩
      rcases List.mem_cons.1 he with rfl | he
      · exact hlt
      · exact String.lt_trans hlt (hk e he)
    · split
      · rename_i hlt
        refine List.pairwise_cons.2 ⟨fun e he => ?_, ih hr⟩
        rcases key_of_mem_insertEntry he with h | ⟨e', he', h⟩
        · simpa only [h] using hlt
        · simpa only [h] using hk e' he'
      · exact List.pairwise_cons.2 ⟨hk, hr⟩

def insert (d : Dict α) (k : String) (v : α) : Dict α :=
  ⟨insertEntry k v d.entries, ordered_insertEntry k v d.ordered⟩

def find? (d : Dict α) (k : String) : Option α :=
  (d.entries.find? fun e => e.1 == k).map Prod.snd

/-- Insert the pairs in order, so that the last pair of a key stays. -/
def ofList (pairs : List (String × α)) : Dict α :=
  pairs.foldl (fun d (k, v) => d.insert k v) empty

theorem find?_insertEntry (k : String) (v : α) (es : List (String × α)) (k' : String) :
    ((insertEntry k v es).find? fun e => e.1 == k').map Prod.snd =
      if k' = k then some v else (es.find? fun e => e.1 == k').map Prod.snd := by
  induction es with
  | nil => by_cases same : k' = k <;> simp [insertEntry, same, Ne.symm]
  | cons e rest ih =>
    obtain ⟨first, w⟩ := e
    unfold insertEntry
    split
    · by_cases same : k' = k <;> simp [same, Ne.symm]
    · rename_i notBelow
      split
      · rename_i above
        have other : first ≠ k := fun same => String.lt_irrefl k (same ▸ above)
        by_cases here : first = k'
        · subst here
          simp [other]
        · simp only [List.find?_cons, beq_eq_false_iff_ne.mpr here]
          exact ih
      · rename_i notAbove
        obtain rfl : k = first := String.le_antisymm notAbove notBelow
        by_cases same : k' = k <;> simp [same, Ne.symm]

theorem find?_insert (d : Dict α) (k : String) (v : α) (k' : String) :
    (d.insert k v).find? k' = if k' = k then some v else d.find? k' :=
  find?_insertEntry k v d.entries k'

theorem mem_of_mem_insertEntry {k : String} {v : α} {es : List (String × α)} {e : String × α}
    (mem : e ∈ insertEntry k v es) : e = (k, v) ∨ e ∈ es := by
  induction es with
  | nil => exact Or.inl (List.mem_singleton.mp mem)
  | cons first rest ih =>
    obtain ⟨k', v'⟩ := first
    simp only [insertEntry] at mem
    split at mem
    · exact List.mem_cons.mp mem
    · rename_i not_below
      split at mem
      · rcases List.mem_cons.mp mem with rfl | mem
        · exact Or.inr List.mem_cons_self
        · exact (ih mem).imp_right (List.mem_cons_of_mem _)
      · rename_i not_above
        obtain rfl : k = k' := String.le_antisymm not_above not_below
        exact (List.mem_cons.mp mem).imp_right (List.mem_cons_of_mem _)

/-- Every entry comes from a pair. -/
theorem mem_of_mem_ofList {pairs : List (String × α)} {e : String × α}
    (mem : e ∈ (ofList pairs).entries) : e ∈ pairs := by
  have inserted : ∀ (es : List (String × α)) (d : Dict α),
      e ∈ (es.foldl (fun d (k, v) => d.insert k v) d).entries → e ∈ d.entries ∨ e ∈ es := by
    intro es
    induction es with
    | nil => exact fun _ mem => Or.inl mem
    | cons first rest ih =>
      intro d mem
      rcases ih _ mem with mem | mem
      · rcases mem_of_mem_insertEntry mem with rfl | mem
        · exact Or.inr List.mem_cons_self
        · exact Or.inl mem
      · exact Or.inr (List.mem_cons_of_mem _ mem)
  exact (inserted pairs empty mem).resolve_left List.not_mem_nil

/-- The last pair of a key is the one that stays. -/
theorem find?_ofList {before after : List (String × α)} {k : String} {v : α}
    (last : ∀ e ∈ after, e.1 ≠ k) : (ofList (before ++ (k, v) :: after)).find? k = some v := by
  have kept : ∀ (es : List (String × α)) (d : Dict α), (∀ e ∈ es, e.1 ≠ k) → d.find? k = some v →
      (es.foldl (fun d (k, v) => d.insert k v) d).find? k = some v := by
    intro es
    induction es with
    | nil => exact fun _ _ found => found
    | cons e rest ih =>
      intro d others found
      refine ih _ (fun e mem => others e (List.mem_cons_of_mem _ mem)) ?_
      rw [find?_insert, if_neg fun same => others e List.mem_cons_self same.symm, found]
  unfold ofList
  rw [List.foldl_append, List.foldl_cons]
  exact kept after _ last (by rw [find?_insert, if_pos rfl])

/-- A key above all others goes to the end. -/
theorem insertEntry_of_above {k : String} {v : α} {es : List (String × α)}
    (above : ∀ e ∈ es, e.1 < k) : insertEntry k v es = es ++ [(k, v)] := by
  induction es with
  | nil => rfl
  | cons e r ih =>
    obtain ⟨k', v'⟩ := e
    have hk : k' < k := above (k', v') List.mem_cons_self
    simp only [insertEntry, if_neg (String.lt_asymm hk), if_pos hk, List.cons_append,
      ih fun e he => above e (List.mem_cons_of_mem _ he)]

/-- A dictionary is made of its entries. -/
theorem ofList_entries (d : Dict α) : ofList d.entries = d := by
  have extend : ∀ (es : List (String × α)) (acc : Dict α), Ordered (acc.entries ++ es) →
      (es.foldl (fun d (k, v) => d.insert k v) acc).entries = acc.entries ++ es := by
    intro es
    induction es with
    | nil => simp
    | cons e r ih =>
      intro acc h
      have above : ∀ a ∈ acc.entries, a.1 < e.1 :=
        fun a ha => (List.pairwise_append.1 h).2.2 a ha e List.mem_cons_self
      have next : (acc.insert e.1 e.2).entries = acc.entries ++ [e] := insertEntry_of_above above
      rw [List.foldl_cons, ih (acc.insert e.1 e.2) (by simpa [next] using h), next]
      simp
  cases d with
  | mk es h =>
    have entries := extend es empty h
    unfold ofList
    generalize es.foldl (fun d (k, v) => d.insert k v) empty = made at *
    cases made
    simpa [empty] using entries

theorem ordered_filter (p : String × α → Bool) {es : List (String × α)} (h : Ordered es) :
    Ordered (es.filter p) := h.sublist List.filter_sublist

/-- The entries that satisfy a condition. -/
def filter (d : Dict α) (p : String × α → Bool) : Dict α :=
  ⟨d.entries.filter p, ordered_filter p d.ordered⟩

theorem ordered_filterMap {β : Type} (f : α → Option β) {es : List (String × α)}
    (h : Ordered es) : Ordered (es.filterMap fun e => (f e.2).map (e.1, ·)) := by
  refine List.Pairwise.filterMap _ (fun a b hab x hx y hy => ?_) h
  obtain ⟨_, _, rfl⟩ := Option.map_eq_some_iff.1 hx
  obtain ⟨_, _, rfl⟩ := Option.map_eq_some_iff.1 hy
  exact hab

/-- The entries whose values have an image, with that image. -/
def filterMap {β : Type} (d : Dict α) (f : α → Option β) : Dict β :=
  ⟨d.entries.filterMap fun e => (f e.2).map (e.1, ·), ordered_filterMap f d.ordered⟩

theorem find?_filterMap {β : Type} {d : Dict α} {f : α → Option β} {k : String} {v : α} {w : β}
    (found : d.find? k = some v) (image : f v = some w) : (d.filterMap f).find? k = some w := by
  have first : ∀ es : List (String × α),
      (es.find? fun e => e.1 == k).map Prod.snd = some v →
      ((es.filterMap fun e => (f e.2).map (e.1, ·)).find? fun e => e.1 == k).map Prod.snd =
        some w := by
    intro es
    induction es with
    | nil => exact fun none => nomatch none
    | cons e rest ih =>
      intro found
      by_cases here : e.1 = k
      · rw [List.find?_cons_of_pos (by simpa using here)] at found
        obtain rfl := Option.some.inj found
        rw [List.filterMap_cons, image]
        simp [here]
      · rw [List.find?_cons_of_neg (by simpa using here)] at found
        rw [List.filterMap_cons]
        cases f e.2 with
        | none => exact ih found
        | some x =>
          simp only [Option.map_some]
          rw [List.find?_cons_of_neg (by simpa using here)]
          exact ih found
  exact first d.entries found

theorem mem_of_find? {d : Dict α} {k : String} {v : α} (found : d.find? k = some v) :
    (k, v) ∈ d.entries := by
  obtain ⟨e, there, rfl⟩ := Option.map_eq_some_iff.mp found
  have same : e.1 = k := by simpa using List.find?_some there
  rw [← same]
  exact List.mem_of_find?_eq_some there

def isEmpty (d : Dict α) : Bool := d.entries.isEmpty

def size (d : Dict α) : Nat := d.entries.length

end Dict

end PointRelay
