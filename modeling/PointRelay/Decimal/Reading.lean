import PointRelay.Decimal.Double

/-!
# Reading decimal text

A decimal is an optional sign, digits with an optional point, and an optional exponent; at least
one digit stands beside the point. The words for infinity and not-a-number are read in any case.
-/

namespace PointRelay.Decimal

/-- The value of a run of digits. -/
def digitsValue (ds : List Char) : Nat := ds.foldl (fun n c => n * 10 + (c.toNat - 48)) 0

/-- A sign in front, if there is one. -/
def splitSign : List Char → Bool × List Char
  | '-' :: r => (true, r)
  | '+' :: r => (false, r)
  | r => (false, r)

def exponent? : List Char → Option Int
  | [] => some 0
  | c :: r =>
    if c = 'e' ∨ c = 'E' then
      let (neg, ds) := splitSign r
      if ds.isEmpty || !ds.all Char.isDigit then none
      else some (if neg then -(digitsValue ds : Int) else digitsValue ds)
    else none

def word? (neg : Bool) (s : List Char) : Option Double :=
  match String.ofList (s.map Char.toLower) with
  | "inf" | "infinity" => some (.infinity neg)
  | "nan" => some ⟨0x7FF8000000000000⟩
  | _ => none

/-- The double nearest to a decimal text. -/
def Double.ofText? (s : String) : Option Double :=
  let (neg, r) := splitSign s.toList
  let whole := r.takeWhile Char.isDigit
  let r := r.dropWhile Char.isDigit
  let (fraction, r) :=
    match r with
    | '.' :: r => (r.takeWhile Char.isDigit, r.dropWhile Char.isDigit)
    | r => ([], r)
  if whole.isEmpty && fraction.isEmpty then word? neg (splitSign s.toList).2
  else
    (exponent? r).map fun e =>
      Double.ofDecimal neg (digitsValue (whole ++ fraction)) (e - fraction.length)

end PointRelay.Decimal
