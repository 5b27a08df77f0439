import PointRelay.Json.Basic

/-!
# Members with known names

A structure is read from an object by the names of its fields, or from an array by their order.
Members of other names are skipped. A field that is given twice is an error, and so is a name
that spells no text.
-/

namespace PointRelay.Json

variable {α : Type}

/-- The position of a name. -/
def position? (name : String) : List String → Option Nat
  | [] => none
  | n :: r => if n = name then some 0 else (position? name r).map (· + 1)

/-- Put the members into the slots of their names. -/
def fill? (names : List String) (slots : List (Option α)) :
    List (Option String × α) → Option (List (Option α))
  | [] => some slots
  | (none, _) :: _ => none
  | (some name, v) :: r =>
    match position? name names with
    | none => fill? names slots r
    | some i =>
      match slots[i]? with
      | some none => fill? names (slots.set i (some v)) r
      | _ => none

/-- One slot for each name, filled by name. -/
def byName? (names : List String) (members : List (Option String × α)) :
    Option (List (Option α)) :=
  fill? names (names.map fun _ => none) members

/-- One slot for each name, filled by order. -/
def byOrder (names : List String) (items : List α) : List (Option α) :=
  (items.map some ++ names.map fun _ => none).take names.length

/-- The slots of a structure with these fields. -/
def slots? (names : List String) : Json → Option (List (Option Json))
  | .object members => byName? names members
  | .array items => if names.length < items.length then none else some (byOrder names items)
  | _ => none

/-- A text. -/
def text? : Json → Option String
  | .string s => s
  | _ => none

/-- A text or nothing. -/
def optionalText? : Json → Option (Option String)
  | .null => some none
  | j => j.text?.map some

end PointRelay.Json
