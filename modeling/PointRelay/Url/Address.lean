/-!
# Numeric addresses

IPv4 addresses in their lenient notation (up to four numbers, each decimal, octal or hexadecimal,
the last one filling the remaining bytes) and IPv6 addresses in groups of four hexadecimal digits,
with one gap of zeros and possibly a dotted tail. Written, an IPv4 address has four decimal
numbers, and the longest run of two or more zero groups of an IPv6 address becomes the gap.
-/

namespace PointRelay.Url.Address

def digit? (radix : Nat) (c : Char) : Option Nat :=
  let v :=
    if c.isDigit then some (c.toNat - 48)
    else if 'a' ≤ c ∧ c ≤ 'f' then some (c.toNat - 87)
    else if 'A' ≤ c ∧ c ≤ 'F' then some (c.toNat - 55)
    else none
  v.filter (· < radix)

def digitsValue? (radix : Nat) (cs : List Char) : Option Nat :=
  cs.foldl (fun acc c => do some ((← acc) * radix + (← digit? radix c))) (some 0)

/-- A number in decimal, or in octal or hexadecimal when it is marked so. -/
def ipv4Number? (cs : List Char) : Option Nat :=
  match cs with
  | [] => none
  | '0' :: 'x' :: r | '0' :: 'X' :: r => digitsValue? 16 r
  | '0' :: c :: r => digitsValue? 8 (c :: r)
  | r => digitsValue? 10 r

/-- The parts between dots. -/
def dotParts (cs : List Char) : List (List Char) :=
  cs.foldr (fun c parts =>
    match parts with
    | p :: r => if c = '.' then [] :: p :: r else (c :: p) :: r
    | [] => [[c]]) [[]]

/-- The parts without an empty last one. -/
def ipv4Parts (cs : List Char) : List (List Char) :=
  let parts := dotParts cs
  if 1 < parts.length && parts.getLast? == some [] then parts.dropLast else parts

/-- Whether a host name has to be an IPv4 address. -/
def endsInNumber (cs : List Char) : Bool :=
  let parts := dotParts cs
  let last :=
    match parts.getLast? with
    | some [] => parts.dropLast.getLast?
    | l => l
  match last with
  | none => false
  | some p => (!p.isEmpty && p.all Char.isDigit) || (ipv4Number? p).isSome

/-- The address of up to four numbers. -/
def ipv4OfNumbers? (numbers : List Nat) : Option Nat :=
  match numbers.reverse with
  | [] => none
  | last :: before =>
    let front := before.reverse
    if 4 < numbers.length || front.any (255 < ·) || 0x100000000 ≤ last * Nat.pow 256 front.length then none
    else
      let high := front.foldl (fun acc n => acc * 256 + n) 0
      some (high * Nat.pow 256 (4 - front.length) + last)

def ipv4? (cs : List Char) : Option Nat := do
  ipv4OfNumbers? (← (ipv4Parts cs).mapM ipv4Number?)

def ipv4Text (a : Nat) : String :=
  String.intercalate "." ([a / 16777216, a / 65536 % 256, a / 256 % 256, a % 256].map toString)

/-- The value of a decimal byte without needless zeros, and the text after it. -/
def byte? (cs : List Char) : Option (Nat × List Char) :=
  let ds := cs.takeWhile Char.isDigit
  match digitsValue? 10 ds with
  | none => none
  | some n =>
    if ds.isEmpty || (1 < ds.length && ds.head? == some '0') || 255 < n then none
    else some (n, cs.drop ds.length)

/-- Four decimal bytes at the end of an IPv6 address, as two groups. -/
def dottedTail? (cs : List Char) : Option (List Nat) := do
  let rest? (cs : List Char) : Option (List Char) :=
    match cs with
    | '.' :: r => some r
    | _ => none
  let (a, r) ← byte? cs
  let (b, r) ← byte? (← rest? r)
  let (c, r) ← byte? (← rest? r)
  let (d, r) ← byte? (← rest? r)
  if r.isEmpty then some [a * 256 + b, c * 256 + d] else none

/-- Groups read so far, and how many of them stand before the gap. -/
structure Groups where
  groups : List Nat
  gap : Option Nat

/-- Read groups. The gap counts as one group of zero. -/
def readGroups (g : Groups) : Nat → List Char → Option Groups
  | 0, _ => none
  | fuel + 1, cs =>
    match cs with
    | [] => some g
    | ':' :: r =>
      if 8 ≤ g.groups.length || g.gap.isSome then none
      else readGroups ⟨g.groups ++ [0], some (g.groups.length + 1)⟩ fuel r
    | cs =>
      if 8 ≤ g.groups.length then none
      else
        let ds := (cs.take 4).takeWhile fun c => (digit? 16 c).isSome
        match digitsValue? 16 ds, cs.drop ds.length with
        | none, _ => none
        | some n, [] => some { g with groups := g.groups ++ [n] }
        | some n, ':' :: r =>
          if r.isEmpty then none else readGroups { g with groups := g.groups ++ [n] } fuel r
        | some _, '.' :: _ =>
          if ds.isEmpty || 6 < g.groups.length then none
          else (dottedTail? cs).map fun tail => { g with groups := g.groups ++ tail }
        | some _, _ => none

/-- Fill the gap with zeros up to eight groups. -/
def Groups.fill? (g : Groups) : Option (List Nat) :=
  match g.gap with
  | none => if g.groups.length = 8 then some g.groups else none
  | some n =>
    some (g.groups.take n ++ List.replicate (8 - g.groups.length) 0 ++ g.groups.drop n)

def ipv6? (cs : List Char) : Option (List Nat) := do
  let g ← match cs with
    | ':' :: ':' :: r => readGroups ⟨[0], some 1⟩ (cs.length + 1) r
    | ':' :: _ => none
    | [] | [_] => none
    | cs => readGroups ⟨[], none⟩ (cs.length + 1) cs
  g.fill?

/-- Start and length of the first longest run of zero groups. -/
def longestRun (gs : List Nat) : Nat × Nat :=
  let runs := (List.range gs.length).map fun i => (i, ((gs.drop i).takeWhile (· = 0)).length)
  runs.foldl (fun best run => if best.2 < run.2 then run else best) (0, 0)

private def hexText (n : Nat) : String := String.ofList (Nat.toDigits 16 n)

private def colons (gs : List Nat) : String := String.intercalate ":" (gs.map hexText)

def ipv6Text (gs : List Nat) : String :=
  let (start, length) := longestRun gs
  if length < 2 then colons gs
  else colons (gs.take start) ++ "::" ++ colons (gs.drop (start + length))

end PointRelay.Url.Address
