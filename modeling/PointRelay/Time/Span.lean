import PointRelay.Time.Instant
import PointRelay.Text.Blank

/-!
# Spans of time

A span is a number of seconds below `2 ^ 64` and nanoseconds below `10 ^ 9`. It has three texts:
`brief`, a number with its largest fitting unit; `words`, a sum of parts from years to
nanoseconds; and what `read?` accepts, which is more than `words` writes.
-/

namespace PointRelay.Time

structure Span where
  secs : Nat
  nanos : Nat
deriving DecidableEq, Repr, Inhabited

namespace Span

def zero : Span := ⟨0, 0⟩

def seconds (n : Nat) : Span := ⟨n, 0⟩

def millis (n : Nat) : Span := ⟨n / 1000, n % 1000 * 1000000⟩

/-- A fraction of `places` digits without the zeros at its end. -/
private def fractionText (places n : Nat) : String :=
  let ds := ((padded places n).toList.reverse.dropWhile (· = '0')).reverse
  if ds.isEmpty then "" else "." ++ String.ofList ds

/-- The largest of s, ms, µs and ns whose whole part is not zero. -/
def brief (t : Span) : String :=
  if 0 < t.secs then toString t.secs ++ fractionText 9 t.nanos ++ "s"
  else if 1000000 ≤ t.nanos then
    toString (t.nanos / 1000000) ++ fractionText 6 (t.nanos % 1000000) ++ "ms"
  else if 1000 ≤ t.nanos then toString (t.nanos / 1000) ++ fractionText 3 (t.nanos % 1000) ++ "µs"
  else toString t.nanos ++ "ns"

def secondsPerYear : Nat := 31557600
def secondsPerMonth : Nat := 2630016

/-- A number with its unit, nothing for zero. -/
def part (n : Nat) (unit : String) : List String :=
  if n = 0 then [] else [toString n ++ unit]

/-- A part whose unit has an `s` unless there is one of it. -/
def plural (n : Nat) (unit : String) : List String :=
  part n (if 1 < n then unit ++ "s" else unit)

/-- The parts that are not zero, from years down, joined by spaces. -/
def words (t : Span) : String :=
  let inYear := t.secs % secondsPerYear
  let inMonth := inYear % secondsPerMonth
  let inDay := inMonth % 86400
  let parts :=
    plural (t.secs / secondsPerYear) "year" ++ plural (inYear / secondsPerMonth) "month" ++
      plural (inMonth / 86400) "day" ++ part (inDay / 3600) "h" ++ part (inDay % 3600 / 60) "m" ++
      part (inDay % 60) "s" ++ part (t.nanos / 1000000) "ms" ++ part (t.nanos / 1000 % 1000) "us" ++
      part (t.nanos % 1000) "ns"
  if parts.isEmpty then "0s" else String.intercalate " " parts

/-- Units are counted in nanoseconds below the second and in seconds from there on. -/
inductive Scale where
  | nanos (perUnit : Nat)
  | secs (perUnit : Nat)

def scale? (unit : String) : Option Scale :=
  match unit with
  | "nanos" | "nsec" | "ns" => some (.nanos 1)
  | "usec" | "us" | "µs" => some (.nanos 1000)
  | "millis" | "msec" | "ms" => some (.nanos 1000000)
  | "seconds" | "second" | "secs" | "sec" | "s" => some (.secs 1)
  | "minutes" | "minute" | "min" | "mins" | "m" => some (.secs 60)
  | "hours" | "hour" | "hrs" | "hr" | "h" => some (.secs 3600)
  | "days" | "day" | "d" => some (.secs 86400)
  | "weeks" | "week" | "wks" | "wk" | "w" => some (.secs 604800)
  | "months" | "month" | "M" => some (.secs secondsPerMonth)
  | "years" | "year" | "yrs" | "yr" | "y" => some (.secs secondsPerYear)
  | _ => none

/-- A natural number that 64 bits hold. -/
def word? (n : Nat) : Option Nat := if n < 0x10000000000000000 then some n else none

/-- The sum, while its seconds and the nanoseconds on the way fit in 64 bits. -/
def add? (t : Span) (secs nanos : Nat) : Option Span := do
  let nanos ← word? (t.nanos + nanos)
  let secs ← word? (t.secs + secs + nanos / 1000000000)
  some ⟨secs, nanos % 1000000000⟩

/-- Digits after the point: their value and ten to the power of their number. -/
structure Fraction where
  numerator : Nat
  denominator : Nat

def addWhole? (t : Span) (n : Nat) : Scale → Option Span
  | .nanos per => do t.add? 0 (← word? (n * per))
  | .secs per => do t.add? (← word? (n * per)) 0

/-- The fraction of a number of steps, if it is whole and the product fits in 64 bits. -/
def Fraction.of? (f : Fraction) (steps : Nat) : Option Nat := do
  let n ← word? (f.numerator * steps)
  if n % f.denominator = 0 then some (n / f.denominator) else none

/-- A fraction is whole in the base of its unit: nanoseconds up to the minute, seconds beyond. Of a
nanosecond there is none. -/
def addFraction? (t : Span) (f : Fraction) : Scale → Option Span
  | .nanos per => if per = 1 then none else do t.add? 0 (← f.of? per)
  | .secs per =>
    if per ≤ 60 then do t.add? 0 (← f.of? (per * 1000000000)) else do t.add? (← f.of? per) 0

def isUnitChar (c : Char) : Bool := c.isAlpha || c = 'µ'

/-- One more digit at the end of a number. -/
def pushDigit? (n : Nat) (c : Char) : Option Nat := word? (n * 10 + (c.toNat - 48))

/-- The digits of a whole number; blanks among them are skipped. -/
def wholeDigits? (n : Nat) : List Char → Option (Nat × List Char)
  | [] => some (n, [])
  | c :: r =>
    if c.isDigit then do wholeDigits? (← pushDigit? n c) r
    else if Text.isBlank c then wholeDigits? n r
    else some (n, c :: r)

/-- The digits of a fraction; blanks among them are skipped. -/
def fractionDigits? (f : Fraction) : List Char → Option (Fraction × List Char)
  | [] => some (f, [])
  | c :: r =>
    if c.isDigit then do
      fractionDigits? ⟨← pushDigit? f.numerator c, ← word? (f.denominator * 10)⟩ r
    else if Text.isBlank c then fractionDigits? f r
    else some (f, c :: r)

/-- The fraction after a point, if there is one. -/
def fraction? (cs : List Char) : Option (Option Fraction × List Char) :=
  match cs with
  | '.' :: r => do
    let (f, r) ← fractionDigits? ⟨0, 1⟩ r
    if f.denominator = 1 then none else some (some f, r)
  | r => some (none, r)

/-- One number with its unit, added to a span. Returns what is left of the text. -/
def readPart? (t : Span) (cs : List Char) : Option (Span × List Char) := do
  let (n, r) ← wholeDigits? 0 cs
  let (f, r) ← fraction? r
  let scale ← scale? (String.ofList (r.takeWhile isUnitChar))
  let t ← t.addWhole? n scale
  let t ← match f with
    | none => some t
    | some f => t.addFraction? f scale
  some (t, r.dropWhile isUnitChar)

/-- The parts of a span. Each starts with a digit, after blanks. -/
def readParts? (t : Span) : Nat → List Char → Option Span
  | 0, _ => none
  | fuel + 1, cs =>
    match Text.trimLeft cs with
    | [] => some t
    | c :: r =>
      if c.isDigit then do
        let (t, r) ← readPart? t (c :: r)
        readParts? t fuel r
      else none

/-- Read a sum of numbers with units; the bare text `0` is the empty span. -/
def read? (s : String) : Option Span :=
  if s = "0" then some zero
  else
    let cs := Text.trimLeft s.toList
    if cs.isEmpty then none else readParts? zero (cs.length + 1) cs

end Span

end PointRelay.Time
