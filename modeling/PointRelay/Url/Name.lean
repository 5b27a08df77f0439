import PointRelay.Text.Utf8
import PointRelay.Text.Normal
import PointRelay.Url.Punycode
import PointRelay.Url.Name.Mapping
import PointRelay.Url.Name.Refused
import PointRelay.Url.Name.Marks
import PointRelay.Url.Name.Direction
import PointRelay.Url.Name.Joining

/-!
# Host names

A host name is brought into ASCII: characters are mapped and put into normal form, labels are
checked, and a label beyond ASCII is written in Punycode behind `xn--`. A label that already is in
Punycode has to stand for a valid label. Lengths, empty labels and hyphens are not checked.
-/

namespace PointRelay.Url.Name

def mappingRuns : List Text.Run := Text.runs mappingTable
def refusedRuns : List Text.Run := Text.runs refusedTable

/-- What a character goes to, if it is not kept. -/
def mapped? (c : Char) : Option (List Char) :=
  if c.toNat < 0x80 then if c.isUpper then some [c.toLower] else none
  else
    (mappingRuns.find? (·.has c.toNat)).map fun r =>
      match r.target with
      | [t] => [Char.ofNat (t + (c.toNat - r.first))]
      | ts => ts.map Char.ofNat

def isRefused (c : Char) : Bool := refusedRuns.any (·.has c.toNat)

/-- The ASCII characters that no host name holds. -/
def isForbidden (c : Char) : Bool := c.toNat ≤ 0x20 || c.toNat == 0x7F || "%#/:<>?@[\\]^|".contains c

/-- The conditions on a label beyond ASCII. -/
def isValidLabel (label : List Char) : Bool :=
  (match label with
    | [] => true
    | c :: _ => !isMark c) &&
    label.all (fun c => !isForbidden c && !isRefused c && (mapped? c).isNone) &&
    joinersStand [] label

def isAscii (cs : List Char) : Bool := cs.all fun c => c.toNat < 0x80

/-- A label as it is sent, and the characters that it stands for. -/
structure Label where
  sent : List Char
  shown : List Char

/-- Bring a label into ASCII. -/
def Label.ofChars? (label : List Char) : Option Label :=
  match label with
  | 'x' :: 'n' :: '-' :: '-' :: r =>
    match Punycode.decode? r with
    | some l =>
      if isAscii label && !isAscii l && isValidLabel l && Text.Normal.normal l == l then
        some ⟨label, l⟩
      else none
    | none => none
  | l =>
    if isAscii l then if l.any isForbidden then none else some ⟨l, l⟩
    else if isValidLabel l then some ⟨"xn--".toList ++ Punycode.encode l, l⟩ else none

/-- The labels between dots. -/
def labels (cs : List Char) : List (List Char) :=
  cs.foldr (fun c parts =>
    match parts with
    | p :: r => if c = '.' then [] :: p :: r else (c :: p) :: r
    | [] => [[c]]) [[]]

def joined : List (List Char) → List Char
  | [] => []
  | [l] => l
  | l :: r => l ++ '.' :: joined r

/-- A host name in ASCII. -/
def toAscii? (bytes : List UInt8) : Option (List Char) := do
  let cs ← Text.Utf8.decode? bytes
  let name := Text.Normal.normal (cs.flatMap fun c => (mapped? c).getD [c])
  let ls ← (labels name).mapM Label.ofChars?
  if isOrdered (ls.map (·.shown)) then some (joined (ls.map (·.sent))) else none

end PointRelay.Url.Name
