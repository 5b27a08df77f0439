/-!
# Orders of trial

A pool is tried in a random order, drawn anew for each dispatch. The orders to come are a list; one
that is no permutation of the pool, or is missing, stands for the order of the pool itself.
-/

namespace PointRelay.Order

/-- Whether a list names each of `n` members once. -/
def isOrder (n : Nat) (order : List Nat) : Bool := order.isPerm (List.range n)

/-- Draw an order for `n` members. -/
def draw (n : Nat) : List (List Nat) → List Nat × List (List Nat)
  | [] => (List.range n, [])
  | order :: rest => (if isOrder n order then order else List.range n, rest)

theorem perm_draw (n : Nat) (orders : List (List Nat)) :
    (draw n orders).1.Perm (List.range n) := by
  cases orders with
  | nil => exact .refl _
  | cons order rest =>
    by_cases h : isOrder n order
    · simpa [draw, h] using List.isPerm_iff.mp h
    · simp [draw, h]

end PointRelay.Order
