import PointRelay.Decimal.Double

/-!
# The shortest decimal text of a double

Every finite double owns an interval of numbers that round to it, with its ends when the
significand is even. The digits chosen are those of the coarsest decimal grid that has a point in
that interval, and of two such points the nearer one, the larger when both are equally near. The
text is positional: no exponent and no needless fraction.
-/

namespace PointRelay.Decimal

/-- `digits * 10 ^ exponent`. -/
structure Scientific where
  digits : Nat
  exponent : Int
deriving DecidableEq, Repr

namespace Shortest

/-- A magnitude `4 * m` and the ends of its rounding interval in units of `2 ^ (q - 2)`. -/
structure Interval where
  centre : Nat
  lo : Nat
  hi : Nat
  closed : Bool
  unit : Int

def Interval.of (v : Double) : Interval :=
  let m := v.significand
  let narrow := m = 0x10000000000000 ∧ -1074 < v.scale
  ⟨4 * m, if narrow then 4 * m - 1 else 4 * m - 2, 4 * m + 2, m % 2 = 0, v.scale - 2⟩

/-- Scale factors `(a, b)` with `x * 2 ^ unit ? d * 10 ^ k` decided as `x * a ? d * b`. -/
def factors (unit k : Int) : Nat × Nat :=
  (Nat.pow 2 unit.toNat * Nat.pow 10 (-k).toNat, Nat.pow 10 k.toNat * Nat.pow 2 (-unit).toNat)

/-- Whether `d * 10 ^ k` lies in the interval. -/
def Interval.has (i : Interval) (k : Int) (d : Nat) : Bool :=
  let (a, b) := factors i.unit k
  if i.closed then i.lo * a ≤ d * b && d * b ≤ i.hi * a
  else i.lo * a < d * b && d * b < i.hi * a

/-- The point of the grid `10 ^ k` that is chosen, if one lies in the interval. -/
def Interval.pick (i : Interval) (k : Int) : Option Nat :=
  let (a, b) := factors i.unit k
  let below := i.centre * a / b
  let above := below + 1
  match i.has k below, i.has k above with
  | true, true => if 2 * (i.centre * a) < (below + above) * b then some below else some above
  | true, false => some below
  | false, true => some above
  | false, false => none

/-- Try the grids `10 ^ k`, `10 ^ (k - 1)`, … until one has a point in the interval. -/
def search (i : Interval) : Nat → Int → Scientific
  | 0, k => ⟨i.centre * (factors i.unit k).1 / (factors i.unit k).2, k⟩
  | fuel + 1, k =>
    match i.pick k with
    | some d => ⟨d, k⟩
    | none => search i fuel (k - 1)

end Shortest

/-- The shortest digits of a finite double that is not zero. -/
def Double.shortest (v : Double) : Scientific :=
  let bitLength : Int := Nat.log2 v.significand + 1 + v.scale
  let top : Int := (bitLength * 30103).fdiv 100000 + 2
  let exact : Int := min v.scale 0
  Shortest.search (.of v) (top - exact).toNat top

/-- The digits of a number. -/
def natText (n : Nat) : List Char := Nat.toDigits 10 n

/-- Digits and exponent in positional notation. -/
def Scientific.positional (s : Scientific) : List Char :=
  let ds := natText s.digits
  if 0 ≤ s.exponent then ds ++ List.replicate s.exponent.toNat '0'
  else
    let places := (-s.exponent).toNat
    if places < ds.length then
      ds.take (ds.length - places) ++ '.' :: ds.drop (ds.length - places)
    else
      '0' :: '.' :: (List.replicate (places - ds.length) '0' ++ ds)

/-- The text of a double: the shortest positional decimal that reads back to it. -/
def Double.text (v : Double) : String :=
  if v.isNaN then "NaN"
  else
    let sign := if v.negative then "-" else ""
    if v.isInfinite then sign ++ "inf"
    else if v.significand = 0 then sign ++ "0"
    else sign ++ String.ofList v.shortest.positional

end PointRelay.Decimal
