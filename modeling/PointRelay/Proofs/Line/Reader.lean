import PointRelay.Decimal.Reading
import PointRelay.Point.Line

/-!
# Reading lines

The line protocol as its reader sees it. In an unquoted part a backslash directly before a special
character of that part stands for the character, any other backslash for itself; an unescaped
special character ends the part, and so does a line break. A quoted value runs to the next
unescaped quote and may hold line breaks. A bare value tells its kind by its look.
-/

namespace PointRelay.Line

open Decimal

/-- The unescaped text of an unquoted part, and what follows it. -/
def part (special : List Char) : List Char → List Char × List Char
  | '\\' :: d :: rest =>
    if d ∈ special then Prod.map (d :: ·) id (part special rest)
    else Prod.map ('\\' :: ·) id (part special (d :: rest))
  | c :: rest =>
    if c ∈ special ∨ c = '\n' then ([], c :: rest)
    else Prod.map (c :: ·) id (part special rest)
  | [] => ([], [])

/-- The text up to the closing quote, and what follows that. -/
def quoted? : List Char → Option (List Char × List Char)
  | '\\' :: d :: rest =>
    if d ∈ quotedSpecial then (quoted? rest).map (Prod.map (d :: ·) id)
    else (quoted? (d :: rest)).map (Prod.map ('\\' :: ·) id)
  | '"' :: rest => some ([], rest)
  | c :: rest => (quoted? rest).map (Prod.map (c :: ·) id)
  | [] => none

/-- A whole number in decimal notation. -/
def integer? (cs : List Char) : Option Int :=
  let (negative, ds) := splitSign cs
  if ds.isEmpty || !ds.all Char.isDigit then none
  else some (if negative then -(digitsValue ds : Int) else digitsValue ds)

/-- A value without quotes: integers end in `i`, and all but the two truth values are floats. -/
def bare? (cs : List Char) : Option FieldValue :=
  if cs.getLast? = some 'i' then (integer? cs.dropLast).map .integer
  else if cs = "true".toList then some (.boolean true)
  else if cs = "false".toList then some (.boolean false)
  else (Double.ofText? (String.ofList cs)).map .float

/-- The characters that may stand in a bare value. -/
def isBare (c : Char) : Bool := c ≠ ',' && c ≠ ' ' && c ≠ '\n'

def value? : List Char → Option (FieldValue × List Char)
  | '"' :: rest => (quoted? rest).map (Prod.map (fun s => .string (String.ofList s)) id)
  | cs => (bare? (cs.takeWhile isBare)).map (·, cs.dropWhile isBare)

/-- Items for as long as one begins. An item that takes no character is refused. -/
def many? {α : Type} (begins : Char → Bool) (item? : List Char → Option (α × List Char))
    (cs : List Char) : Option (List α × List Char) :=
  match cs with
  | [] => some ([], [])
  | c :: r =>
    if begins c then
      match item? (c :: r) with
      | none => none
      | some (a, rest) =>
        if _ : rest.length < (c :: r).length then
          (many? begins item? rest).map (Prod.map (a :: ·) id)
        else none
    else some ([], c :: r)
termination_by cs.length
decreasing_by assumption

/-- A comma, a key, an equals sign and a value. -/
def tag? : List Char → Option ((String × String) × List Char)
  | ',' :: cs =>
    match part keySpecial cs with
    | (key, '=' :: cs) =>
      let (value, rest) := part keySpecial cs
      some ((String.ofList key, String.ofList value), rest)
    | _ => none
  | _ => none

/-- A key, an equals sign and a value. -/
def field? (cs : List Char) : Option ((String × FieldValue) × List Char) :=
  match part keySpecial cs with
  | (key, '=' :: cs) => (value? cs).map (Prod.map (String.ofList key, ·) id)
  | _ => none

def furtherField? : List Char → Option ((String × FieldValue) × List Char)
  | ',' :: cs => field? cs
  | _ => none

/-- One or more fields with commas between them. -/
def fields? (cs : List Char) : Option (List (String × FieldValue) × List Char) := do
  let (first, rest) ← field? cs
  let (further, rest) ← many? (· == ',') furtherField? rest
  some (first :: further, rest)

/-- The time at the end of a line. -/
def time? (cs : List Char) : Option (Int × List Char) :=
  match cs.dropWhile (· ≠ '\n') with
  | '\n' :: rest => (integer? (cs.takeWhile (· ≠ '\n'))).map (·, rest)
  | _ => none

/-- A space and what is expected behind it. -/
def spaced? {α : Type} (p? : List Char → Option (α × List Char)) :
    List Char → Option (α × List Char)
  | ' ' :: cs => p? cs
  | _ => none

/-- One point with the line break behind it. -/
def point? (cs : List Char) : Option (Point × List Char) := do
  let (name, rest) := part nameSpecial cs
  let (tags, rest) ← many? (· == ',') tag? rest
  let (fields, rest) ← spaced? fields? rest
  let (time, rest) ← spaced? time? rest
  some (⟨String.ofList name, Dict.ofList tags, Dict.ofList fields, time⟩, rest)

/-- The points of a text, if all of it can be read. -/
def read? (text : String) : Option (List Point) :=
  (many? (fun _ => true) point? text.toList).map Prod.fst

end PointRelay.Line
