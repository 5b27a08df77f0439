import PointRelay.Text.Percent

/-!
# Form encoding

Pairs of names and values as the query of a request: `name=value` joined by `&`. A space is written
as a plus sign, letters, digits and `*-._` stand for themselves, and all else is percent-encoded.
-/

namespace PointRelay.Text.Form

/-- The characters that are not themselves in a form. -/
def isEncoded (c : Char) : Bool := !(c.isAlphanum || "*-._".contains c)

def encodeText (cs : List Char) : List Char :=
  (Percent.encode (fun c => c != ' ' && isEncoded c) cs).map fun c => if c = ' ' then '+' else c

def encodePair (p : String × String) : List Char :=
  encodeText p.1.toList ++ '=' :: encodeText p.2.toList

/-- The text of a form. -/
def encode : List (String × String) → List Char
  | [] => []
  | [p] => encodePair p
  | p :: rest => encodePair p ++ '&' :: encode rest

end PointRelay.Text.Form
