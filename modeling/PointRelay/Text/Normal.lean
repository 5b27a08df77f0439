import PointRelay.Text.Table
import PointRelay.Text.Normal.Pairs
import PointRelay.Text.Normal.Ranks

/-!
# Normal form

One spelling for texts that look alike: characters are taken apart into a base and its marks, the
marks are put into the order of their ranks, and what has a character of its own is put together
again. Characters that normal form replaces by a single other one are not treated here.
-/

namespace PointRelay.Text.Normal

def rankRuns : List Run := runs rankTable

/-- The rank of a combining character, which is 0 for any other. -/
def rank (n : Nat) : Nat := ((rankRuns.find? (·.has n)).bind (·.target.head?)).getD 0

/-- Pairs of characters and the one they compose to. -/
def compositions : List ((Nat × Nat) × Nat) :=
  (entries pairTable).filterMap fun entry =>
    match splitAt (fun c => c = '+' || c = ':') entry with
    | [a, b, c] => some ((hexValue a, hexValue b), hexValue c)
    | _ => none

/-- The character that a pair composes to. Syllables of Hangul compose by arithmetic. -/
def compose? (a b : Nat) : Option Nat :=
  if 0x1100 ≤ a ∧ a < 0x1113 ∧ 0x1161 ≤ b ∧ b < 0x1176 then
    some (0xAC00 + ((a - 0x1100) * 21 + (b - 0x1161)) * 28)
  else if 0xAC00 ≤ a ∧ a < 0xD7A4 ∧ (a - 0xAC00) % 28 = 0 ∧ 0x11A7 < b ∧ b < 0x11C3 then
    some (a + (b - 0x11A7))
  else (compositions.find? (·.1 = (a, b))).map (·.2)

/-- The pair that a character is composed of. -/
def pair? (n : Nat) : Option (Nat × Nat) :=
  if 0xAC00 ≤ n ∧ n < 0xD7A4 then
    let k := n - 0xAC00
    if k % 28 = 0 then some (0x1100 + k / 588, 0x1161 + k % 588 / 28)
    else some (n - k % 28, 0x11A7 + k % 28)
  else (compositions.find? (·.2 = n)).map (·.1)

/-- Take a character apart. Bases are taken apart in turn, to a depth that no character exceeds. -/
def apart : Nat → Nat → List Nat
  | 0, n => [n]
  | depth + 1, n =>
    match pair? n with
    | some (base, mark) => apart depth base ++ [mark]
    | none => [n]

/-- Put a character behind a text that is given from its end, below the marks of higher rank. -/
def place (n : Nat) : List Nat → List Nat
  | [] => [n]
  | p :: r => if 0 < rank n ∧ rank n < rank p then p :: place n r else n :: p :: r

/-- The characters of a text, taken apart and in the order of their ranks. -/
def decompose (ns : List Nat) : List Nat :=
  ((ns.flatMap (apart 8)).foldl (fun placed n => place n placed) []).reverse

/-- A text under composition: its finished part, the base that may still compose, and the marks
behind it, both from the end. -/
structure Progress where
  finished : List Nat
  base? : Option Nat
  marks : List Nat

namespace Progress

/-- The text so far, from its end. -/
def toList (p : Progress) : List Nat := p.marks ++ (p.base?.toList ++ p.finished)

/-- Whether no mark stands between the base and a character of a rank. -/
def reaches (p : Progress) (r : Nat) : Bool :=
  match p.marks with
  | [] => true
  | m :: _ => rank m < r

/-- Take in the next character. -/
def step (p : Progress) (n : Nat) : Progress :=
  match p.base?.bind fun b => if p.reaches (rank n) then compose? b n else none with
  | some whole => { p with base? := some whole }
  | none =>
    if rank n = 0 then ⟨p.toList, some n, []⟩
    else { p with marks := n :: p.marks }

end Progress

/-- The normal form of a text. -/
def normal (cs : List Char) : List Char :=
  if cs.all fun c => c.toNat < 0x80 then cs
  else
    (((decompose (cs.map Char.toNat)).foldl Progress.step ⟨[], none, []⟩).toList.reverse).map
      Char.ofNat

end PointRelay.Text.Normal
