/-!
# Running statistics

Count, extremes, mean and the sum of squared deviations, kept up to date one value at a time.
The recurrence asks for nothing but the arithmetic of `Scalar`, so it can be run on doubles and
looked at over exact numbers. The first value sets everything.
-/

namespace PointRelay.Stats

/-- What running statistics need of their numbers. -/
class Scalar (α : Type) extends Add α, Sub α, Mul α, Div α where
  ofCount : Nat → α
  least : α → α → α
  greatest : α → α → α

structure Running (α : Type) where
  count : Nat
  mean : α
  deviations : α
  min : α
  max : α

/-- Statistics of no values have zeros everywhere. -/
structure Spread (α : Type) where
  count : Nat
  min : α
  max : α
  mean : α
  variance : α
deriving DecidableEq

namespace Running

variable {α : Type} [Scalar α]

def empty : Running α :=
  let zero := Scalar.ofCount 0
  ⟨0, zero, zero, zero, zero⟩

def push (s : Running α) (x : α) : Running α :=
  if s.count = 0 then ⟨1, x, Scalar.ofCount 0, x, x⟩
  else
    let count := s.count + 1
    let before := x - s.mean
    let mean := s.mean + before / Scalar.ofCount count
    let after := x - mean
    ⟨count, mean, s.deviations + before * after, Scalar.least s.min x, Scalar.greatest s.max x⟩

def ofList (xs : List α) : Running α := xs.foldl push empty

/-- The sample variance, zero for fewer than two values. -/
def variance (s : Running α) : α :=
  if s.count < 2 then Scalar.ofCount 0 else s.deviations / Scalar.ofCount (s.count - 1)

def spread (s : Running α) : Spread α := ⟨s.count, s.min, s.max, s.mean, s.variance⟩

end Running

end PointRelay.Stats
