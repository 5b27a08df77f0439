import PointRelay.Url.Name.Marks

/-!
# Directions of writing

A name that holds characters of a right-to-left script consists of labels of one direction each, so
that it is shown in one way only: a label begins with a letter, holds what fits the direction of
that letter, and ends with a letter or a digit, marks apart.
-/

namespace PointRelay.Url.Name

/-- How a character takes part in a line of two directions. Kinds that no host name holds are left
out. -/
inductive Direction
  | left
  | right
  | arabic
  | arabicDigit
  | digit
  | sign
  | separator
  | unit
  | neutral
  | joiner
  | mark
  deriving DecidableEq, Repr

namespace Direction

/-- The characters of each kind. A range may run over characters that no host name holds, and marks
are in a table of their own. -/
def tables : List (Direction × String) := [
  (right, "
5be 5c0 5c3 5c6 5d0-5f4 7c0-7ea 7f4-7f5 7fa 7fe-815 81a 824 828 830-858 85e 10800-1091b
10920-10a00 10a10-10a35 10a40-10ae4 10aeb-10b35 10b40-10cff 10e80-10ea9 10ead-10eb1 10f00-10f27
10f70-10f81 10f86-10ff6 1e800-1e8cf 1e922-1e943 1e94b-1e95f
"),
  (arabic, "
608 60b 60d 61b-64a 66d-66f 671-6d5 6e5-6e6 6ee-6ef 6fa-710 712-72f 74d-7a5 7b1 860-88e 8a0-8c9
fbb2-fbc2 fe73 10d00-10d23 10f30-10f45 10f51-10f59 1ec71-1ed3d
"),
  (arabicDigit, "660-669 66b-66c 10d30-10e7e"),
  (digit, "30-39 6f0-6f9 102e1-102fb"),
  (sign, "2b 2d 2212"),
  (separator, "2c 2e 60c 2044"),
  (unit, "
24 a2-a5 b0-b1 58f 609-60a 66a 9f2-9f3 9fb af1 bf9 e3f 17db 2030-2032 20a0-20c0 212e 2213
a838-a839 11fdd-11fe0 1e2ff
"),
  (neutral, "
21-22 26-2a 3b-60 7b-a1 a6-ae b6-d7 f7 2b9-2ba 2c2-2cf 2d2-2ed 2ef-2ff 375 3f6 58a-58e 606-607
60e-60f 6de 6e9 7f6-7f9 bf3-bf8 bfa c78-c7e f3a-f3d 1390-1399 1400 169b-169c 17f0-180a 1940-1945
19de-19ff 2010-2027 2035-2043 2045-205e 2104-2129 213a-214d 218a-2211 2214-2335 237b-2394
2396-26ab 26ad-27ff 2900-2bff 2ce5-2cea 2cf9-2cff 2e00-3004 3008-3020 3030 3037 303d-303f 30a0
30fb 31c0-31e3 4dc0-4dff a490-a4c6 a60d-a60f a673 a67e-a67f a700-a721 a788 a828-a82b a874-a877
ab6a-ab6b fd3e-fdff fe45-fe46 10101 10140-1018c 10190-101a0 1091f 10b39-10b3f 11052-11065
11660-1166c 11fd5-11fdc 11fe1-11ff1 16fe2 1d1e9-1d241 1d245 1d300-1d356 1eef0-1f12f 1f16d-1f16f
1f1ad 1f260-1fbca
"),
  (joiner, "200c-200d")]

def runsOf : List (Direction × List Text.Run) := tables.map fun (d, t) => (d, Text.runs t)

/-- The marks without room of their own that take part like letters. -/
def letterMarks : List Nat := [0xCBF, 0xCC6, 0x11A07, 0x11A08, 0x11C3F]

/-- The kind of a character. -/
def ofChar (c : Char) : Direction :=
  let n := c.toNat
  if isNonspacing c && !letterMarks.contains n then mark
  else ((runsOf.find? fun (_, rs) => rs.any (·.has n)).map (·.1)).getD left

/-- Whether a character makes a name one of two directions. -/
def isRightward (d : Direction) : Bool := d == right || d == arabic || d == arabicDigit

/-- What a label of either direction holds. -/
def isShared : Direction → Bool
  | digit | sign | separator | unit | neutral | joiner | mark => true
  | left | right | arabic | arabicDigit => false

/-- Whether the kinds of a label's characters fit a name of two directions. -/
def isRegular (kinds : List Direction) : Bool :=
  let last? := (kinds.reverse.dropWhile (· == mark)).head?
  match kinds with
  | [] => true
  | left :: _ =>
    kinds.all (fun d => d == left || d.isShared) && (last? == some left || last? == some digit)
  | right :: _ | arabic :: _ =>
    kinds.all (fun d => d.isRightward || d.isShared) &&
      last?.any (fun d => d.isRightward || d == digit) &&
      !(kinds.contains digit && kinds.contains arabicDigit)
  | _ :: _ => false

end Direction

/-- Whether the labels of a name may stand together. -/
def isOrdered (labels : List (List Char)) : Bool :=
  let kinds := labels.map (·.map Direction.ofChar)
  !kinds.any (·.any Direction.isRightward) || kinds.all Direction.isRegular

end PointRelay.Url.Name
