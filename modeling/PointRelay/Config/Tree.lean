import PointRelay.Json.Members
import PointRelay.Toml.Basic
import PointRelay.Config.Format

/-!
# Configuration values

What a configuration file says, whichever format it is written in: texts, whole numbers, lists and
groups, and values of other kinds, which no setting takes.
-/

namespace PointRelay.Config

inductive Tree where
  | absent
  | text (s : String)
  | whole (n : Int)
  | list (items : List Tree)
  | group (members : List (Option String × Tree))
  | other
deriving Repr, Inhabited

namespace Tree

def ofJson : Json → Tree
  | .null => .absent
  | .bool _ => .other
  | .number l =>
    match l.value? with
    | some (.integer n) => .whole n
    | _ => .other
  | .string (some s) => .text s
  | .string none => .other
  | .array items => .list (itemsOf items)
  | .object members => .group (membersOf members)
where
  itemsOf : List Json → List Tree
    | [] => []
    | j :: r => ofJson j :: itemsOf r
  membersOf : List (Option String × Json) → List (Option String × Tree)
    | [] => []
    | (k, j) :: r => (k, ofJson j) :: membersOf r

def ofToml : Toml → Tree
  | .string s => .text s
  | .integer n => .whole n
  | .float _ | .boolean _ | .time _ => .other
  | .array items => .list (itemsOf items)
  | .table entries => .group (membersOf entries)
where
  itemsOf : List Toml → List Tree
    | [] => []
    | v :: r => ofToml v :: itemsOf r
  membersOf : List (String × Toml) → List (Option String × Tree)
    | [] => []
    | (k, v) :: r => (some k, ofToml v) :: membersOf r

/-- The slots of a group's fields, which a list gives in order. A JSON list has no items beyond
the fields. -/
def slots? (format : Format) (names : List String) : Tree → Option (List (Option Tree))
  | .group members => Json.byName? names members
  | .list items =>
    if format = .json && names.length < items.length then none
    else some (Json.byOrder names items)
  | _ => none

def text? : Tree → Option String
  | .text s => some s
  | _ => none

def optionalText? : Tree → Option (Option String)
  | .absent => some none
  | .text s => some (some s)
  | _ => none

def texts? : Tree → Option (List String)
  | .list items => items.mapM text?
  | _ => none

/-- A natural number that 64 bits hold. -/
def size? : Tree → Option Nat
  | .whole n => if 0 ≤ n ∧ n < 0x10000000000000000 then some n.toNat else none
  | _ => none

end Tree

end PointRelay.Config
