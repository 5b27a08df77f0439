import PointRelay.Json.Basic

/-!
# Writing JSON

Text on one line, or with one item a line and two blanks for each level. Only quotes, backslashes
and control characters are escaped.
-/

namespace PointRelay.Json

def hexChar (n : Nat) : Char := if n < 10 then Char.ofNat (48 + n) else Char.ofNat (87 + n)

/-- A character inside quotes. -/
def escapeChar (c : Char) : List Char :=
  match c with
  | '"' => ['\\', '"']
  | '\\' => ['\\', '\\']
  | '\x08' => ['\\', 'b']
  | '\x0C' => ['\\', 'f']
  | '\n' => ['\\', 'n']
  | '\r' => ['\\', 'r']
  | '\t' => ['\\', 't']
  | c =>
    if c.toNat < 32 then ['\\', 'u', '0', '0', hexChar (c.toNat / 16), hexChar (c.toNat % 16)]
    else [c]

def quoted (s : String) : String := "\"" ++ String.ofList (s.toList.flatMap escapeChar) ++ "\""

def Literal.text (l : Literal) : String :=
  (if l.negative then "-" else "") ++ String.ofList l.whole ++
    (match l.fraction with
      | none => ""
      | some ds => "." ++ String.ofList ds) ++
    (match l.exponent with
      | none => ""
      | some (neg, ds) => "e" ++ (if neg then "-" else "") ++ String.ofList ds)

/-- Text on one line. -/
def compact : Json → String
  | .null => "null"
  | .bool b => if b then "true" else "false"
  | .number l => l.text
  | .string s => quoted (s.getD "")
  | .array items => "[" ++ String.intercalate "," (itemTexts items) ++ "]"
  | .object members => "\x7b" ++ String.intercalate "," (memberTexts members) ++ "\x7d"
where
  itemTexts : List Json → List String
    | [] => []
    | j :: rest => compact j :: itemTexts rest
  memberTexts : List (Option String × Json) → List String
    | [] => []
    | (k, j) :: rest => (quoted (k.getD "") ++ ":" ++ compact j) :: memberTexts rest

/-- A line break and the blanks of a level. -/
def newline (level : Nat) : String := "\n" ++ String.ofList (List.replicate (2 * level) ' ')

/-- Texts between brackets, one a line. -/
def block (level : Nat) (opening closing : String) (texts : List String) : String :=
  if texts.isEmpty then opening ++ closing
  else
    opening ++ newline (level + 1) ++ String.intercalate ("," ++ newline (level + 1)) texts ++
      newline level ++ closing

/-- Text with one item a line, starting at a level. -/
def pretty (level : Nat) : Json → String
  | .null => "null"
  | .bool b => if b then "true" else "false"
  | .number l => l.text
  | .string s => quoted (s.getD "")
  | .array items => block level "[" "]" (itemTexts (level + 1) items)
  | .object members => block level "\x7b" "\x7d" (memberTexts (level + 1) members)
where
  itemTexts (level : Nat) : List Json → List String
    | [] => []
    | j :: rest => pretty level j :: itemTexts level rest
  memberTexts (level : Nat) : List (Option String × Json) → List String
    | [] => []
    | (k, j) :: rest => (quoted (k.getD "") ++ ": " ++ pretty level j) :: memberTexts level rest

end PointRelay.Json
