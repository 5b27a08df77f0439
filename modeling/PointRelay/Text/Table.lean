/-!
# Tables of characters

A table is a text of entries between blanks. An entry names characters by their code points in
hexadecimal digits, one, a range `s-e` or every second one of a range `s/e`; behind a colon stands
what the entry gives them, further numbers joined by dots.
-/

namespace PointRelay.Text

/-- Code points `first`, `first + step`, … up to `last`, and what the table gives them. -/
structure Run where
  first : Nat
  last : Nat
  step : Nat
  target : List Nat

def hexValue (cs : List Char) : Nat :=
  cs.foldl (fun n c => n * 16 + (if c.isDigit then c.toNat - 48 else c.toNat - 87)) 0

/-- The parts between characters of a kind, empty ones left out. -/
def splitAt (sep : Char → Bool) (cs : List Char) : List (List Char) :=
  (cs.foldr (fun c (parts : List (List Char)) =>
    match parts with
    | p :: r => if sep c then [] :: p :: r else (c :: p) :: r
    | [] => [[c]]) [[]]).filter (!·.isEmpty)

/-- The entries of a table. -/
def entries (table : String) : List (List Char) :=
  splitAt (fun c => c = ' ' || c = '\n') table.toList

/-- Read one entry of a table. -/
def Run.ofEntry (entry : List Char) : Run :=
  let source := entry.takeWhile (· ≠ ':')
  let target := (splitAt (· = '.') (entry.drop (source.length + 1))).map hexValue
  match splitAt (fun c => c = '-' || c = '/') source with
  | [a, b] => ⟨hexValue a, hexValue b, if source.contains '/' then 2 else 1, target⟩
  | _ => ⟨hexValue source, hexValue source, 1, target⟩

def Run.has (r : Run) (n : Nat) : Bool :=
  r.first ≤ n && n ≤ r.last && (n - r.first) % r.step == 0

def runs (table : String) : List Run := (entries table).map Run.ofEntry

end PointRelay.Text
