/-!
# Punycode

Labels of host names in ASCII: the ASCII characters of the label, a hyphen, and the others as
differences between code points and positions, written as numbers of variable base 36 whose
thresholds adapt to the size of the last difference.
-/

namespace PointRelay.Url.Punycode

/-- The threshold of a digit. -/
def threshold (position bias : Nat) : Nat := min 26 (max 1 (position - bias))

def adapt (delta points : Nat) (first : Bool) : Nat :=
  let delta := if first then delta / 700 else delta / 2
  go (delta + delta / points) 0 64
where
  go (delta k : Nat) : Nat → Nat
    | 0 => k
    | fuel + 1 =>
      if 455 < delta then go (delta / 35) (k + 36) fuel else k + 36 * delta / (delta + 38)

def digitChar (d : Nat) : Char := if d < 26 then Char.ofNat (97 + d) else Char.ofNat (22 + d)

def digitValue? (c : Char) : Option Nat :=
  if c.isDigit then some (c.toNat - 22)
  else if 'a' ≤ c ∧ c ≤ 'z' then some (c.toNat - 97)
  else if 'A' ≤ c ∧ c ≤ 'Z' then some (c.toNat - 65)
  else none

/-- The digits of a difference. -/
def number (bias : Nat) : Nat → Nat → Nat → List Char
  | 0, _, _ => []
  | fuel + 1, q, k =>
    let t := threshold k bias
    if q < t then [digitChar q]
    else digitChar (t + (q - t) % (36 - t)) :: number bias fuel ((q - t) / (36 - t)) (k + 36)

/-- State of the encoder: the code point reached, the difference so far, the bias, the number of
characters written, and the output backwards. -/
structure Encoder where
  point : Nat
  delta : Nat
  bias : Nat
  written : Nat
  first : Bool
  out : List Char

/-- Walk once over the label for the code point reached. -/
def Encoder.pass (e : Encoder) : List Char → Encoder
  | [] => e
  | c :: r =>
    if c.toNat < e.point then ({ e with delta := e.delta + 1 }).pass r
    else if c.toNat = e.point then
      ({ e with
        out := (number e.bias 64 e.delta 36).reverse ++ e.out
        bias := adapt e.delta (e.written + 1) e.first
        delta := 0
        written := e.written + 1
        first := false }).pass r
    else e.pass r

/-- Take up the code points beyond ASCII in ascending order. -/
def Encoder.run (e : Encoder) (label : List Char) : Nat → Encoder
  | 0 => e
  | fuel + 1 =>
    match (label.filter fun c => e.point ≤ c.toNat).map Char.toNat |>.min? with
    | none => e
    | some next =>
      let e := { e with delta := e.delta + (next - e.point) * (e.written + 1), point := next }
      let e := e.pass label
      ({ e with delta := e.delta + 1, point := e.point + 1 }).run label fuel

def encode (label : List Char) : List Char :=
  let ascii := label.filter fun c => c.toNat < 0x80
  let start := if ascii.isEmpty then [] else '-' :: ascii.reverse
  let e : Encoder := ⟨0x80, 0, 72, ascii.length, true, start⟩
  (e.run label label.length).out.reverse

/-- Read a difference: its value and what follows. -/
def readNumber? (bias : Nat) (value weight k : Nat) : List Char → Option (Nat × List Char)
  | [] => none
  | c :: r => do
    let d ← digitValue? c
    let value := value + d * weight
    let t := threshold k bias
    if d < t then some (value, r) else readNumber? bias value (weight * (36 - t)) (k + 36) r

private def insertAt (i : Nat) (c : Char) (cs : List Char) : List Char := cs.take i ++ c :: cs.drop i

def decodeRest? (label : List Char) (point i bias : Nat) (first : Bool) :
    Nat → List Char → Option (List Char)
  | 0, _ => none
  | _ + 1, [] => some label
  | fuel + 1, cs => do
    let (delta, r) ← readNumber? bias 0 1 36 cs
    let size := label.length + 1
    let place := i + delta
    let point := point + place / size
    if Nat.isValidChar point then
      decodeRest? (insertAt (place % size) (Char.ofNat point) label) point (place % size + 1)
        (adapt delta size first) false fuel r
    else none

/-- The label that an encoded one stands for. -/
def decode? (cs : List Char) : Option (List Char) :=
  let back := cs.reverse
  let tail := (back.takeWhile (· ≠ '-')).reverse
  let head := (back.dropWhile (· ≠ '-')).drop 1 |>.reverse
  if head.any fun c => 0x80 ≤ c.toNat then none
  else decodeRest? head 0x80 0 72 true (tail.length + 1) tail

end PointRelay.Url.Punycode
