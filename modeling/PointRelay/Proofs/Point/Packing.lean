import PointRelay.Point.Packing

/-!
# Cutting lines into runs

Packing cuts the lines into consecutive runs and makes one datagram of each. A run is closed when
the next line would take it beyond the limit, so a run of several lines keeps within the limit, and
only a line that travels alone can exceed it. What is packed may be lines or anything else that has
a line: `bytes` says what each item puts into a datagram.
-/

namespace PointRelay.Packing

variable {α : Type} (bytes : α → List UInt8)

/-- A run may travel in one datagram. -/
def Fits (limit : Nat) (run : List α) : Prop :=
  (run.flatMap bytes).length ≤ limit ∨ run.length = 1

/-- Items cut into consecutive runs, each of which may travel in one datagram. -/
structure Cut (limit : Nat) (items : List α) (runs : List (List α)) : Prop where
  whole : runs.flatten = items
  filled : ∀ run ∈ runs, run ≠ []
  fits : ∀ run ∈ runs, Fits bytes limit run

/-- The runs of the datagrams, where the first of them is in the making. -/
def runsFrom (limit : Nat) (current : List α) : List α → List (List α)
  | [] => if current.isEmpty then [] else [current]
  | item :: rest =>
    if !current.isEmpty && limit < ((current ++ [item]).flatMap bytes).length then
      current :: runsFrom limit [item] rest
    else runsFrom limit (current ++ [item]) rest

/-- The runs of the datagrams. -/
def runs (limit : Nat) (items : List α) : List (List α) := runsFrom bytes limit [] items

theorem packInto_eq (limit : Nat) (current items : List α) :
    packInto limit (current.map bytes).reverse (current.flatMap bytes).length (items.map bytes) =
      (runsFrom bytes limit current items).map (·.flatMap bytes) := by
  induction items generalizing current with
  | nil =>
    rw [runsFrom, List.map_nil, packInto]
    cases current with
    | nil => rfl
    | cons item rest => simp [List.flatMap]
  | cons item rest ih =>
    have longer : (current.flatMap bytes).length + (bytes item).length =
        ((current ++ [item]).flatMap bytes).length := by
      simp
    have opened := ih [item]
    have grown := ih (current ++ [item])
    simp only [List.map_append, List.map_cons, List.map_nil, List.reverse_append,
      List.reverse_cons, List.reverse_nil, List.nil_append, List.cons_append,
      List.flatMap_singleton] at opened grown
    rw [List.map_cons, packInto, runsFrom, longer]
    have empty : (current.map bytes).reverse.isEmpty = current.isEmpty := by
      cases current <;> simp
    rw [empty]
    split
    · rw [opened, List.map_cons, List.reverse_reverse, List.flatMap]
    · exact grown

theorem pack_map (limit : Nat) (line : α → String) (items : List α) :
    pack limit (items.map line) =
      (runs (fun item => lineBytes (line item)) limit items).map
        (·.flatMap fun item => lineBytes (line item)) := by
  have packed := packInto_eq (fun item => lineBytes (line item)) limit [] items
  rw [pack, List.map_map]
  exact packed

theorem pack_eq (limit : Nat) (lines : List String) :
    pack limit lines = (runs lineBytes limit lines).map (·.flatMap lineBytes) := by
  simpa using pack_map limit id lines

theorem flatten_runsFrom (limit : Nat) (current items : List α) :
    (runsFrom bytes limit current items).flatten = current ++ items := by
  induction items generalizing current with
  | nil =>
    rw [runsFrom]
    cases current <;> simp
  | cons item rest ih =>
    rw [runsFrom]
    split
    · rw [List.flatten_cons, ih, List.singleton_append]
    · rw [ih, List.append_assoc, List.singleton_append]

theorem ne_nil_of_mem_runsFrom {limit : Nat} {current items run : List α}
    (mem : run ∈ runsFrom bytes limit current items) : run ≠ [] := by
  induction items generalizing current with
  | nil =>
    rw [runsFrom] at mem
    cases current with
    | nil => cases mem
    | cons item rest =>
      rw [List.mem_singleton.mp mem]
      exact List.cons_ne_nil item rest
  | cons item rest ih =>
    rw [runsFrom] at mem
    split at mem
    · rename_i closed
      rcases List.mem_cons.mp mem with rfl | mem
      · intro empty
        simp [empty] at closed
      · exact ih mem
    · exact ih mem

/-- Each run fits when the one in the making does. -/
theorem fits_of_mem_runsFrom {limit : Nat} {current items run : List α}
    (start : current = [] ∨ Fits bytes limit current)
    (mem : run ∈ runsFrom bytes limit current items) : Fits bytes limit run := by
  induction items generalizing current with
  | nil =>
    rw [runsFrom] at mem
    rcases start with rfl | fits
    · cases mem
    · split at mem
      · cases mem
      · rwa [List.mem_singleton.mp mem]
  | cons item rest ih =>
    rw [runsFrom] at mem
    split at mem
    · rename_i closed
      rcases List.mem_cons.mp mem with rfl | mem
      · rcases start with rfl | fits
        · simp at closed
        · exact fits
      · exact ih (Or.inr (Or.inr rfl)) mem
    · rename_i room
      refine ih (Or.inr ?_) mem
      -- The item goes into a datagram of its own, or there was room for it.
      cases current with
      | nil => exact Or.inr rfl
      | cons first more =>
        have room : ¬ limit < ((first :: more ++ [item]).flatMap bytes).length := by
          simpa using room
        exact Or.inl (Nat.not_lt.mp room)

theorem cut_runs (limit : Nat) (items : List α) : Cut bytes limit items (runs bytes limit items) :=
  ⟨flatten_runsFrom bytes limit [] items, fun _ => ne_nil_of_mem_runsFrom bytes,
    fun _ => fits_of_mem_runsFrom bytes (Or.inl rfl)⟩

end PointRelay.Packing
