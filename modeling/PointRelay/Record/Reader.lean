import PointRelay.Record
import PointRelay.Json.Reader
import PointRelay.Json.Members
import PointRelay.Time.Stamp

/-!
# Reading records

A record is one line of JSON. A line without a timestamp stands for the moment at which it is
read, so reading gives a record that still waits for the time.
-/

namespace PointRelay

open Time

namespace Value

/-- The value of a JSON text; repeated members keep the last. -/
def ofJson? : Json → Option Value
  | .null => some .null
  | .bool b => some (.bool b)
  | .number l =>
    l.value?.map fun
      | .integer n => .integer n
      | .double v => .double v
  | .string s => s.map .string
  | .array items => (itemsOf? items).map .array
  | .object members => (membersOf? members).map fun ms => .object (Dict.ofList ms).entries
where
  itemsOf? : List Json → Option (List Value)
    | [] => some []
    | j :: r => do some ((← ofJson? j) :: (← itemsOf? r))
  membersOf? : List (Option String × Json) → Option (List (String × Value))
    | [] => some []
    | (k, j) :: r => do some ((← k, ← ofJson? j) :: (← membersOf? r))

end Value

namespace Record

/-- A record as a line gives it. -/
structure Written where
  name : String
  tags : Dict String
  fields : Dict Value
  timestamp : Option Instant

/-- The record, read at the given moment. -/
def Written.at (w : Written) (now : Instant) : Record :=
  ⟨w.name, w.tags, w.fields, w.timestamp.getD now⟩

/-- Arrays and objects may be nested this deep inside the fields of a line. -/
def fieldDepth : Nat := 126

def pairs? (α : Type) (f : Json → Option α) :
    List (Option String × Json) → Option (List (String × α))
  | [] => some []
  | (k, j) :: r => do some ((← k, ← f j) :: (← pairs? α f r))

def tags? : Json → Option (Dict String)
  | .object members => (pairs? String Json.text? members).map Dict.ofList
  | _ => none

def fields? (j : Json) : Option (Dict Value) :=
  match j with
  | .object members =>
    if fieldDepth < j.depth then none else (pairs? Value Value.ofJson? members).map Dict.ofList
  | _ => none

/-- A slot that may be left empty. -/
def orElse {α : Type} (slot : Option Json) (default : α) (f : Json → Option α) : Option α :=
  match slot with
  | none => some default
  | some j => f j

def ofJson? (j : Json) : Option Written := do
  match ← j.slots? ["name", "tags", "fields", "timestamp"] with
  | [name, tags, fields, timestamp] =>
    let name ← (← name).text?
    let tags ← orElse tags .empty tags?
    let fields ← fields? (← fields)
    let timestamp ← orElse timestamp none fun t => do some (some (← Stamp.read? (← t.text?)))
    some ⟨name, tags, fields, timestamp⟩
  | _ => none

/-- Read a line. -/
def readLine? (line : String) : Option Written := do ofJson? (← Json.read? line)

end Record

end PointRelay
