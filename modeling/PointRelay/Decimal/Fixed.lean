import PointRelay.Decimal.Shortest

/-!
# Fixed decimal places

The exact binary value is rounded to a number of places, a half going to the even last digit.
-/

namespace PointRelay.Decimal

/-- The magnitude of a finite double in units of `10 ^ -places`. -/
def Double.inUnits (v : Double) (places : Nat) : Nat :=
  let (num, den) := v.ratio
  roundDiv (num * Nat.pow 10 places) den

/-- A count of `10 ^ -places` in positional notation with all its places. -/
def placesText (places n : Nat) : List Char :=
  let ds := natText n
  let padded := List.replicate (places + 1 - ds.length) '0' ++ ds
  let whole := padded.take (padded.length - places)
  if places = 0 then whole else whole ++ '.' :: padded.drop (padded.length - places)

def Double.fixed (v : Double) (places : Nat) : String :=
  if v.isNaN then "NaN"
  else
    let sign := if v.negative then "-" else ""
    if v.isInfinite then sign ++ "inf"
    else sign ++ String.ofList (placesText places (v.inUnits places))

end PointRelay.Decimal
