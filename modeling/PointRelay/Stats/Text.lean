import PointRelay.Stats.Tally
import PointRelay.Decimal.Fixed

/-!
# Statistics in doubles and as text

Numbers have three decimal places, the failure rate two.
-/

namespace PointRelay.Stats

open Decimal

/-- A comparison with a value that is not a number leaves the other one; of two equal ones the
first stays. -/
instance : Scalar Float where
  ofCount n := (Double.ofNat n).toFloat
  least a b := if a.isNaN then b else if b < a then b else a
  greatest a b := if a.isNaN then b else if a < b then b else a

/-- The root of the sample variance. -/
def Running.stdDev (s : Running Float) : Float := s.variance.sqrt

/-- The root of the sample variance. -/
def Spread.stdDev (s : Spread Float) : Float := s.variance.sqrt

private def places (n : Nat) (x : Float) : String := (Double.ofFloat x).fixed n

def Spread.text (s : Spread Float) : String :=
  if s.count = 0 then "N/A"
  else
    "min=" ++ places 3 s.min ++ ", max=" ++ places 3 s.max ++ ", mean=" ++ places 3 s.mean ++
      ", std=" ++ places 3 s.stdDev ++ " (n=" ++ toString s.count ++ ")"

/-- The text of a summary, with the given text for the latencies. -/
def Summary.textWith (latency : String) (s : Summary Float) : String :=
  let head :=
    ["=== Write Metrics Summary ===",
      "Total batches: " ++ toString s.total,
      "Failed batches: " ++ toString s.failed ++ " (" ++ places 2 s.failureRate ++ "%)",
      "Points written: " ++ toString s.points,
      "Attempts per batch: " ++ s.attempts.text,
      "Latency (ms): " ++ latency]
  let endpoints :=
    if s.byEndpoint.isEmpty then []
    else
      "Batches per endpoint:" ::
        s.byEndpoint.entries.map fun (endpoint, n) => "  " ++ endpoint ++ ": " ++ toString n
  String.join ((head ++ endpoints).map (· ++ "\n"))

def Summary.text (s : Summary Float) : String := s.textWith s.latency.text

end PointRelay.Stats
