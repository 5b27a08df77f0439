import PointRelay.Toml.Basic

/-!
# Building a document

Headers and key-value lines add to a tree of tables. A table remembers how it came about, because
that decides what may be added to it: one that a header only passed through can still get its own
header, one that a dotted key made can only grow by dotted keys, and one that has had its header,
or stands in an inline value, is closed to both.
-/

namespace PointRelay.Toml

inductive Origin where
  | passed
  | header
  | dotted
deriving DecidableEq, Repr

inductive Node where
  | value (v : Toml)
  | table (origin : Origin) (entries : List (String × Node))
  | tables (elements : List (List (String × Node)))

abbrev Entries := List (String × Node)

namespace Entries

def get? (es : Entries) (k : String) : Option Node := (es.find? (·.1 = k)).map (·.2)

/-- Replace the node of a key, or add it at the end. -/
def set (es : Entries) (k : String) (n : Node) : Entries :=
  match es with
  | [] => [(k, n)]
  | (k', n') :: r => if k' = k then (k, n) :: r else (k', n') :: set r k n

end Entries

/-- Change the last element. -/
def changeLast {α : Type} (f : α → Option α) : List α → Option (List α)
  | [] => none
  | [x] => (f x).map ([·])
  | x :: y :: r => (changeLast f (y :: r)).map (x :: ·)

/-- Go down a path of headers, making the tables that are missing, and change the entries there. -/
def descend (f : Entries → Option Entries) : List String → Entries → Option Entries
  | [], es => f es
  | k :: path, es => do
    let node ← match es.get? k with
      | none => (descend f path []).map (.table .passed)
      | some (.table origin inner) => (descend f path inner).map (.table origin)
      | some (.tables elements) => (changeLast (descend f path) elements).map .tables
      | some (.value _) => none
    some (es.set k node)

/-- The header `[k]` of a table. -/
def openTable (k : String) (es : Entries) : Option Entries :=
  match es.get? k with
  | none => some (es.set k (.table .header []))
  | some (.table .passed inner) => some (es.set k (.table .header inner))
  | some _ => none

/-- The header `[[k]]` of an element of an array of tables. -/
def openElement (k : String) (es : Entries) : Option Entries :=
  match es.get? k with
  | none => some (es.set k (.tables [[]]))
  | some (.tables elements) => some (es.set k (.tables (elements ++ [[]])))
  | some _ => none

/-- Give a dotted key its value. -/
def assign (v : Toml) : List String → Entries → Option Entries
  | [], _ => none
  | [k], es => if (es.get? k).isSome then none else some (es.set k (.value v))
  | k :: path, es => do
    let node ← match es.get? k with
      | none => (assign v path []).map (.table .dotted)
      | some (.table .dotted inner) => (assign v path inner).map (.table .dotted)
      | some (.table .passed inner) =>
        if path.length < 2 then none else (assign v path inner).map (.table .passed)
      | some _ => none
    some (es.set k node)

/-- The value of a finished node. -/
def Node.toToml : Node → Toml
  | .value v => v
  | .table _ entries => .table (entriesToToml entries)
  | .tables elements => .array (elementsToToml elements)
where
  entriesToToml : Entries → List (String × Toml)
    | [] => []
    | (k, n) :: r => (k, n.toToml) :: entriesToToml r
  elementsToToml : List Entries → List Toml
    | [] => []
    | es :: r => .table (entriesToToml es) :: elementsToToml r

end PointRelay.Toml
