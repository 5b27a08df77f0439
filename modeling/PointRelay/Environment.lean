import PointRelay.Dict
import PointRelay.Text.Blank
import PointRelay.Text.Utf8

/-!
# Environments

Variables are taken from the process and from a file of assignments, where a variable that the
process has already is left alone. An assignment may be quoted over several lines and may refer to
variables. Reading the file ends at the first assignment that is none; those before it count.
-/

namespace PointRelay

abbrev Environment := Dict String

namespace Environment

open Text

/-! ## Logical lines -/

/-- Where the end of a physical line falls. -/
inductive Place where
  | plain
  | space
  | escape
  | weak
  | weakEscape
  | strong
  | strongEscape
deriving DecidableEq, Repr

/-- The place behind a character, outside of quotes. -/
def Place.opened (c : Char) : Place :=
  if c = '\\' then .escape else if c = '"' then .weak else if c = '\'' then .strong else .plain

/-- The place behind a character. -/
def Place.next (p : Place) (c : Char) : Place :=
  match p with
  | .plain => if isBlank c && c != '\n' && c != '\r' then .space else opened c
  | .space => opened c
  | .escape => .plain
  | .weak => if c = '\\' then .weakEscape else if c = '"' then .plain else .weak
  | .weakEscape => .weak
  | .strong => if c = '\\' then .strongEscape else if c = '\'' then .plain else .strong
  | .strongEscape => .strong

/-- A physical line up to its comment, and the place of its end or `none` behind a comment. -/
def scan (p : Place) : List Char → List Char × Option Place
  | [] => ([], some p)
  | c :: rest =>
    if p = .space ∧ c = '#' then ([], none)
    else
      let (line, place) := scan (p.next c) rest
      (c :: line, place)

/-- Join physical lines, each with its line break, into logical ones, behind an open one. A quote
that is never closed drops the rest. -/
def logicalLines (opening : List Char) (p : Place) : List (List Char) → List (List Char)
  | [] => []
  | line :: rest =>
    if (trimLeft (opening ++ line)).head? = some '#' then [] :: logicalLines [] .plain rest
    else
      match scan p line with
      | (cut, none) => (opening ++ cut) :: logicalLines [] .plain rest
      | (_, some .plain) => chomp (opening ++ line) :: logicalLines [] .plain rest
      | (_, some p) => logicalLines (opening ++ line) p rest

/-! ## Assignments -/

/-- Which part of a value is being read. -/
inductive Mode where
  | plain
  | weak
  | strong
  /-- Behind a backslash, inside weak quotes or not. -/
  | escape (quoted : Bool)
  /-- Behind a dollar sign, inside weak quotes or not. -/
  | reference (quoted : Bool) (name : List Char)
  /-- Between braces. -/
  | braced (quoted : Bool) (name : List Char)
  /-- Behind the value. -/
  | finished

private def unquoted (quoted : Bool) : Mode := if quoted then .weak else .plain

/-- Letters and digits; beyond ASCII every character counts as one. -/
def isNameCharacter (c : Char) : Bool := c.isAlphanum || 0x80 ≤ c.toNat

def escaped? (c : Char) : Option Char :=
  if "\\'\"$ ".contains c then some c else if c = 'n' then some '\n' else none

/-- Read a value; what a reference stands for is told by `value`. -/
def readValue? (value : String → String) (m : Mode) : List Char → Option (List Char)
  | [] =>
    match m with
    | .weak | .strong | .reference true _ | .braced _ _ | .escape true => none
    | .reference false name => some (value (String.ofList name)).toList
    | .plain | .escape false | .finished => some []
  | c :: rest =>
    match m with
    | .finished =>
      if c = ' ' ∨ c = '\t' then readValue? value m rest
      else if c = '#' then some []
      else none
    | .escape quoted => do some ((← escaped? c) :: (← readValue? value (unquoted quoted) rest))
    | .strong =>
      if c = '\'' then readValue? value .plain rest
      else (readValue? value m rest).map (c :: ·)
    | .reference quoted name =>
      if isNameCharacter c then readValue? value (.reference quoted (name ++ [c])) rest
      else if c = '\x7b' ∧ name = [] then readValue? value (.braced quoted []) rest
      else
        let known := (value (String.ofList name)).toList
        if c = '$' then (readValue? value (.reference quoted []) rest).map (known ++ ·)
        else (readValue? value (unquoted quoted) rest).map (known ++ c :: ·)
    | .braced quoted name =>
      if c = '\x7d' then
        (readValue? value (unquoted quoted) rest).map ((value (String.ofList name)).toList ++ ·)
      else readValue? value (.braced quoted (name ++ [c])) rest
    | .weak =>
      if c = '$' then readValue? value (.reference true []) rest
      else if c = '"' then readValue? value .plain rest
      else if c = '\\' then readValue? value (.escape true) rest
      else (readValue? value m rest).map (c :: ·)
    | .plain =>
      if c = '$' then readValue? value (.reference false []) rest
      else if c = '\'' then readValue? value .strong rest
      else if c = '"' then readValue? value .weak rest
      else if c = '\\' then readValue? value (.escape false) rest
      else if c = ' ' ∨ c = '\t' then readValue? value .finished rest
      else (readValue? value m rest).map (c :: ·)

/-- The name of a variable, and what follows. -/
def readName? (cs : List Char) : Option (List Char × List Char) :=
  match cs with
  | c :: _ =>
    if c.isAlpha || c == '_' then
      some (cs.span fun c => c.isAlphanum || c == '_' || c == '.')
    else none
  | [] => none

private def behindEqual? : List Char → Option (List Char)
  | '=' :: rest => some rest
  | _ => none

/-- The name and the equals sign of an assignment, which `export` may lead. -/
def readTarget? (cs : List Char) : Option (List Char × List Char) := do
  let (name, rest) ← readName? cs
  let rest := trimLeft rest
  match behindEqual? rest with
  | some rest => some (name, rest)
  | none =>
    if name = "export".toList then
      let (name, rest) ← readName? rest
      some (name, ← behindEqual? (trimLeft rest))
    else none

/-- What a logical line assigns: `none` if it is no assignment, `some none` if it is blank or a
comment. -/
def readLine? (value : String → String) (line : List Char) :
    Option (Option (String × String)) :=
  let cs := trim line
  if cs.isEmpty || cs.head? == some '#' then some none
  else do
    let (name, rest) ← readTarget? cs
    let rest := trimLeft rest
    let text ← if rest.isEmpty || rest.head? == some '#' then some []
      else readValue? value .plain rest
    some (some (String.ofList name, String.ofList text))

/-- Assign line after line. The values of the file are kept apart, for a variable of the process
keeps its value. -/
def assign (env file : Environment) : List (List Char) → Environment
  | [] => env
  | line :: rest =>
    match readLine? (fun name => (env.find? name <|> file.find? name).getD "") line with
    | none => env
    | some none => assign env file rest
    | some (some (name, text)) =>
      let env := if (env.find? name).isSome then env else env.insert name text
      assign env (file.insert name text) rest

/-! ## Files -/

/-- The physical lines of some bytes, each with its line break, up to the first that is no text. -/
def physicalLines (bytes : List UInt8) : List (List Char) :=
  ((Utf8.lines bytes).map Utf8.decode?).takeWhile Option.isSome |>.filterMap id

private def withoutMark : List UInt8 → List UInt8
  | 0xEF :: 0xBB :: 0xBF :: rest => rest
  | bytes => bytes

/-- The environment with the assignments of a file. -/
def extend (env : Environment) (bytes : List UInt8) : Environment :=
  assign env .empty (logicalLines [] .plain (physicalLines (withoutMark bytes)))

end Environment

end PointRelay
