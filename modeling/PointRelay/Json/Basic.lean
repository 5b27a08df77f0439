import PointRelay.Decimal.Shortest

/-!
# JSON

`Json` is what the grammar accepts, before anything is decided about the meaning of its leaves: a
string is `none` when its escapes spell half of a surrogate pair, a number is its literal, and an
object keeps its members in the order and number written. A reader that skips a member never
looks at its leaves.
-/

namespace PointRelay

open Decimal

namespace Json

/-- A number literal: sign, digits before the point, digits after it, exponent. -/
structure Literal where
  negative : Bool
  whole : List Char
  fraction : Option (List Char)
  exponent : Option (Bool × List Char)
deriving Repr, DecidableEq

/-- The value of a number: an integer between `-2 ^ 63` and `2 ^ 64`, or a double. -/
inductive Number where
  | integer (n : Int)
  | double (v : Double)
deriving Repr, DecidableEq

end Json

/-- A JSON text. -/
inductive Json where
  | null
  | bool (b : Bool)
  | number (n : Json.Literal)
  | string (s : Option String)
  | array (items : List Json)
  | object (members : List (Option String × Json))
deriving Repr, Inhabited

namespace Json

namespace Literal

/-- The literal of an integer. -/
def ofInt (n : Int) : Literal := ⟨n < 0, natText n.natAbs, none, none⟩

/-- Digits taken up one by one while the number stays below `2 ^ 64`, and how many were taken. -/
def accumulate (n : Nat) (taken : Nat) : List Char → Nat × Nat × List Char
  | [] => (n, taken, [])
  | c :: r =>
    let next := n * 10 + (c.toNat - 48)
    if next < 0x10000000000000000 then accumulate next (taken + 1) r else (n, taken, c :: r)

def powerOfTen (e : Nat) : Double := Double.ofRatio false (Nat.pow 10 e) 1

/-- Multiply or divide by a power of ten, rounding after each step. Steps beyond `10 ^ 308` are
divisions by that power; a number that grows out of range is refused. -/
def scaled? (v : Double) (e : Int) : Nat → Option Double
  | 0 => some v
  | fuel + 1 =>
    if e.natAbs ≤ 308 then
      if 0 ≤ e then
        let p := v.mul (powerOfTen e.toNat)
        if p.isInfinite then none else some p
      else some (v.div (powerOfTen e.natAbs))
    else if v.significand = 0 then some v
    else if 0 ≤ e then none
    else scaled? (v.div (powerOfTen 308)) (e + 308) fuel

/-- The largest exponent that is taken at its word. -/
def exponentBound : Nat := 0x80000000

def digitsValue (ds : List Char) : Nat := ds.foldl (fun n c => n * 10 + (c.toNat - 48)) 0

/-- The double of a literal: the leading digits that fit in 64 bits, rounded, then scaled by the
power of ten that the remaining digits, the point and the exponent make up. -/
def double? (l : Literal) : Option Double :=
  let (n, _, rest) := accumulate 0 0 l.whole
  let (n, after) :=
    match l.fraction with
    | none => (n, 0)
    | some ds => let (m, k, _) := accumulate n 0 ds; (m, k)
  let start : Int := (rest.length : Int) - after
  let signed (v : Double) : Double := if l.negative then ⟨v.bits ^^^ 0x8000000000000000⟩ else v
  match l.exponent with
  | none => (scaled? (.ofNat n) start (start.natAbs / 308 + 1)).map signed
  | some (neg, ds) =>
    let e := digitsValue ds
    if exponentBound ≤ e then
      if n ≠ 0 ∧ !neg then none else some (signed (.zero false))
    else
      let e : Int := if neg then start - e else start + e
      -- a 64-bit significand is below `10 ^ 20`, so a few divisions reach zero
      (scaled? (.ofNat n) e 4).map signed

/-- The value of a literal. Integers outside the 64-bit ranges, and negative zero, are doubles. -/
def value? (l : Literal) : Option Number :=
  let n := digitsValue l.whole
  if l.fraction.isNone && l.exponent.isNone &&
      (if l.negative then 0 < n && n ≤ 0x8000000000000000 else n < 0x10000000000000000) then
    some (.integer (if l.negative then -(n : Int) else n))
  else (double? l).map .double

end Literal

def int (n : Int) : Json := .number (.ofInt n)

def nat (n : Nat) : Json := int n

def str (s : String) : Json := .string (some s)

def obj (members : List (String × Json)) : Json := .object (members.map fun (k, v) => (some k, v))

/-- The last member of a name. -/
def find? (members : List (Option String × Json)) (key : String) : Option Json :=
  (members.reverse.find? fun (k, _) => k == some key).map (·.2)

/-- A member of an object; what has no such member has `null` there. -/
def get (j : Json) (key : String) : Json :=
  match j with
  | .object members => (find? members key).getD .null
  | _ => .null

/-- How deep arrays and objects are nested. -/
def depth : Json → Nat
  | .array items => 1 + depths items
  | .object members => 1 + memberDepths members
  | _ => 0
where
  depths : List Json → Nat
    | [] => 0
    | j :: r => max j.depth (depths r)
  memberDepths : List (Option String × Json) → Nat
    | [] => 0
    | (_, j) :: r => max j.depth (memberDepths r)

end Json

end PointRelay
