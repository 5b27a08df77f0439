import PointRelay.Point
import PointRelay.Decimal.Shortest

/-!
# The line of a point

`measurement,tag=value field=1i,other="text" 1700000000000000000`: in each part a backslash stands
before the characters that would end it.
-/

namespace PointRelay

/-- A backslash before each special character. -/
def escaped (special : List Char) (cs : List Char) : List Char :=
  cs.flatMap fun c => if c ∈ special then ['\\', c] else [c]

namespace Line

/-- The characters that end the measurement. -/
def nameSpecial : List Char := [',', ' ']

/-- The characters that end a tag key, a tag value or a field key. -/
def keySpecial : List Char := [',', '=', ' ']

/-- The characters with a meaning inside a quoted value. -/
def quotedSpecial : List Char := ['"', '\\']

def fieldValue : FieldValue → List Char
  | .integer n => (toString n).toList ++ ['i']
  | .float v => v.text.toList
  | .boolean b => (if b then "true" else "false").toList
  | .string s => '"' :: escaped quotedSpecial s.toList ++ ['"']

def tag (t : String × String) : List Char :=
  ',' :: escaped keySpecial t.1.toList ++ '=' :: escaped keySpecial t.2.toList

def field (f : String × FieldValue) : List Char :=
  escaped keySpecial f.1.toList ++ '=' :: fieldValue f.2

/-- Parts with a comma between them. -/
def commas : List (List Char) → List Char
  | [] => []
  | [x] => x
  | x :: r => x ++ ',' :: commas r

def ofPoint (p : Point) : List Char :=
  escaped nameSpecial p.measurement.toList ++ p.tags.entries.flatMap tag ++
    ' ' :: commas (p.fields.entries.map field) ++ ' ' :: (toString p.timestampNs).toList

end Line

/-- The line of a point, without a line break. -/
def Point.line (p : Point) : String := String.ofList (Line.ofPoint p)

namespace Batch

def lines (b : Batch) : List String := b.points.map Point.line

/-- The lines of all points, each with a line break. -/
def body (b : Batch) : String :=
  String.ofList (b.points.flatMap fun p => Line.ofPoint p ++ ['\n'])

end Batch

end PointRelay
