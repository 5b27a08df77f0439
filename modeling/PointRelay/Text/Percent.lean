import PointRelay.Text.Utf8

/-!
# Percent encoding

A set names the ASCII characters that are encoded; characters beyond ASCII always are. Decoding
works on bytes and leaves a percent sign alone that two hexadecimal digits do not follow.
-/

namespace PointRelay.Text.Percent

def hexUpper (n : Nat) : Char := if n < 10 then Char.ofNat (48 + n) else Char.ofNat (55 + n)

def encodeByte (b : UInt8) : List Char := ['%', hexUpper (b.toNat / 16), hexUpper (b.toNat % 16)]

/-- Encode the characters of a set and those beyond ASCII. -/
def encode (set : Char → Bool) (cs : List Char) : List Char :=
  cs.flatMap fun c =>
    if 0x80 ≤ c.toNat || set c then (Utf8.encode [c]).flatMap encodeByte else [c]

/-- The control characters. -/
def controls (c : Char) : Bool := c.toNat < 0x20 || c.toNat == 0x7F

def hexDigit? (b : UInt8) : Option Nat :=
  let n := b.toNat
  if 48 ≤ n ∧ n ≤ 57 then some (n - 48)
  else if 97 ≤ n ∧ n ≤ 102 then some (n - 87)
  else if 65 ≤ n ∧ n ≤ 70 then some (n - 55)
  else none

def decode : List UInt8 → List UInt8
  | 37 :: a :: b :: r =>
    match hexDigit? a, hexDigit? b with
    | some x, some y => UInt8.ofNat (x * 16 + y) :: decode r
    | _, _ => 37 :: decode (a :: b :: r)
  | c :: r => c :: decode r
  | [] => []

end PointRelay.Text.Percent
