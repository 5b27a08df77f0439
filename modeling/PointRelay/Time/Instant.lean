import PointRelay.Time.Calendar

/-!
# Instants

An instant is a second since 1970-01-01T00:00:00Z and a count of nanoseconds. During a leap
second the count runs on beyond one second, and the printed second is 60.
-/

namespace PointRelay.Time

structure Instant where
  secs : Int
  nanos : Nat
deriving DecidableEq, Repr, Inhabited

/-- Digits with zeros in front up to a width. -/
def padded (width n : Nat) : String :=
  let ds := Nat.toDigits 10 n
  String.ofList (List.replicate (width - ds.length) '0' ++ ds)

namespace Instant

/-- Nanoseconds since 1970-01-01T00:00:00Z. -/
def toNanos (t : Instant) : Int := t.secs * 1000000000 + t.nanos

def inRange (n : Int) : Bool := -0x8000000000000000 ≤ n && n < 0x8000000000000000

/-- A number that a signed 64-bit integer holds. -/
def held? (n : Int) : Option Int := if inRange n then some n else none

/-- Nanoseconds when a signed 64-bit integer holds them. Before 1970 they are counted back from the
end of the second, so that the product is in range where the sum is, unless the nanoseconds run on
beyond the second. -/
def nanos? (t : Instant) : Option Int :=
  let (secs, nanos) : Int × Int :=
    if t.secs < 0 then (t.secs + 1, t.nanos - 1000000000) else (t.secs, t.nanos)
  (held? (secs * 1000000000)).bind fun whole => held? (whole + nanos)

def date (t : Instant) : Date := Date.ofDays (t.secs.fdiv 86400)

def secondOfDay (t : Instant) : Nat := (t.secs.fmod 86400).toNat

private def yearText (y : Int) : String :=
  if 0 ≤ y && y ≤ 9999 then padded 4 y.toNat
  else (if y < 0 then "-" else "+") ++ padded 4 y.natAbs

/-- No digits, or three, six or nine: the fewest that are exact. -/
private def fractionText (n : Nat) : String :=
  if n = 0 then ""
  else if n % 1000000 = 0 then "." ++ padded 3 (n / 1000000)
  else if n % 1000 = 0 then "." ++ padded 6 (n / 1000)
  else "." ++ padded 9 n

/-- The instant in UTC as RFC 3339 writes it, with the given text for the offset. -/
def text (t : Instant) (offset : String) : String :=
  let d := t.date
  let s := t.secondOfDay
  let leap := 1000000000 ≤ t.nanos
  let second := if leap then s % 60 + 1 else s % 60
  let nanos := if leap then t.nanos - 1000000000 else t.nanos
  yearText d.year ++ "-" ++ padded 2 d.month ++ "-" ++ padded 2 d.day ++ "T" ++
    padded 2 (s / 3600) ++ ":" ++ padded 2 (s / 60 % 60) ++ ":" ++ padded 2 second ++
    fractionText nanos ++ offset

end Instant

end PointRelay.Time
