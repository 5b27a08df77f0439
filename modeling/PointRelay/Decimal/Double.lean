/-!
# Doubles as exact numbers

A `Double` is the 64 bits of a binary64 number. A finite one has the magnitude
`significand * 2 ^ scale`, so comparing, printing and reading need no floating-point operation:
`ofRatio` rounds an exact quotient to the nearest double, a half going to the even significand.
-/

namespace PointRelay.Decimal

/-- The bits of a binary64 number. -/
structure Double where
  bits : UInt64
deriving DecidableEq, Inhabited, Repr

/-- The quotient rounded to the nearest integer, a half to the even one. -/
def roundDiv (num den : Nat) : Nat :=
  let q := num / den
  let r := num % den
  if 2 * r < den then q
  else if den < 2 * r then q + 1
  else if q % 2 = 0 then q else q + 1

namespace Double

def negative (v : Double) : Bool := 0x8000000000000000 ≤ v.bits.toNat

def exponentField (v : Double) : Nat := v.bits.toNat / 0x10000000000000 % 2048

def fractionField (v : Double) : Nat := v.bits.toNat % 0x10000000000000

def isFinite (v : Double) : Bool := v.exponentField < 2047

def isNaN (v : Double) : Bool := !v.isFinite && v.fractionField != 0

def isInfinite (v : Double) : Bool := !v.isFinite && v.fractionField == 0

/-- The integer whose multiple by a power of two is the magnitude. -/
def significand (v : Double) : Nat :=
  if v.exponentField = 0 then v.fractionField else 0x10000000000000 + v.fractionField

/-- The power of two that the significand is multiplied by. -/
def scale (v : Double) : Int := (max 1 v.exponentField : Int) - 1075

def ofFloat (x : Float) : Double := ⟨x.toBits⟩

def toFloat (v : Double) : Float := Float.ofBits v.bits

def withSign (neg : Bool) (magnitude : Nat) : Double :=
  ⟨UInt64.ofNat (if neg then 0x8000000000000000 + magnitude else magnitude)⟩

def infinity (neg : Bool) : Double := withSign neg (2047 * 0x10000000000000)

def zero (neg : Bool) : Double := withSign neg 0

/-- The exponent of the highest power of two that is not above `num / den`. -/
def floorLog2 (num den : Nat) : Int :=
  let e : Int := (Nat.log2 num : Int) - Nat.log2 den
  let fits := if 0 ≤ e then den * Nat.pow 2 e.toNat ≤ num else den ≤ num * Nat.pow 2 (-e).toNat
  if fits then e else e - 1

/-- The double nearest to `num / den`, a half going to the even significand. -/
def ofRatio (neg : Bool) (num den : Nat) : Double :=
  if num = 0 then zero neg
  else
    let q : Int := max (floorLog2 num den - 52) (-1074)
    let m := if 0 ≤ q then roundDiv num (den * Nat.pow 2 q.toNat) else roundDiv (num * Nat.pow 2 (-q).toNat) den
    let magnitude := (q + 1074).toNat * 0x10000000000000 + m
    if 2047 * 0x10000000000000 ≤ magnitude then infinity neg else withSign neg magnitude

def ofNat (n : Nat) : Double := ofRatio false n 1

/-- The double nearest to `m * 10 ^ e`. Exponents far outside the range of doubles are not
expanded. -/
def ofDecimal (neg : Bool) (m : Nat) (e : Int) : Double :=
  if m = 0 then zero neg
  else
    let top : Int := e + Nat.log2 m / 3
    if e + (Nat.log2 m / 4 : Nat) > 310 then infinity neg
    else if top < -400 then zero neg
    else if 0 ≤ e then ofRatio neg (m * Nat.pow 10 e.toNat) 1
    else ofRatio neg m (Nat.pow 10 (-e).toNat)

/-- Numerator and denominator of the magnitude of a finite double. -/
def ratio (v : Double) : Nat × Nat :=
  if 0 ≤ v.scale then (v.significand * Nat.pow 2 v.scale.toNat, 1)
  else (v.significand, Nat.pow 2 (-v.scale).toNat)

/-- The correctly rounded product of two finite doubles. -/
def mul (a b : Double) : Double :=
  let (n₁, d₁) := a.ratio
  let (n₂, d₂) := b.ratio
  ofRatio (a.negative != b.negative) (n₁ * n₂) (d₁ * d₂)

/-- The correctly rounded quotient of two finite doubles, the divisor not being zero. -/
def div (a b : Double) : Double :=
  let (n₁, d₁) := a.ratio
  let (n₂, d₂) := b.ratio
  ofRatio (a.negative != b.negative) (n₁ * d₂) (d₁ * n₂)

end Double

end PointRelay.Decimal
