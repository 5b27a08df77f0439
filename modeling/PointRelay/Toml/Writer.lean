import PointRelay.Toml.Basic
import PointRelay.Decimal.Shortest

/-!
# Writing TOML

A document is written with one key a line, its tables behind headers after the other keys. Arrays
of two or more items have one item a line. A string is written in the first style that can hold
it as it is, and is escaped only when none can.
-/

namespace PointRelay.Toml

/-- Control characters other than the tab and the line feed. -/
def needsEscape (c : Char) : Bool :=
  (c.toNat < 0x20 && c ≠ '\t' && c ≠ '\n') || c.toNat == 0x7F

/-- Whether a character stands three times in a row. -/
def hasTriple (q : Char) : List Char → Bool
  | a :: b :: c :: r => (a = q && b = q && c = q) || hasTriple q (b :: c :: r)
  | _ => false

inductive Style where
  | basic
  | literal
  | multilineBasic
  | multilineLiteral
  | escaped (multiline : Bool)
deriving DecidableEq, Repr

/-- The first style that can hold a string. -/
def Style.of (s : List Char) : Style :=
  let controls := s.any needsEscape
  let newline := s.contains '\n'
  if !newline && !controls && !s.contains '"' && !s.contains '\\' then .basic
  else if !newline && !controls && !s.contains '\'' then .literal
  else if !controls && !s.contains '\\' && !hasTriple '"' s then .multilineBasic
  else if !controls && !hasTriple '\'' s then .multilineLiteral
  else .escaped newline

def hexDigit (n : Nat) : Char := if n < 10 then Char.ofNat (48 + n) else Char.ofNat (55 + n)

def escapeChar (multiline : Bool) (c : Char) : List Char :=
  match c with
  | '\x08' => ['\\', 'b']
  | '\t' => ['\\', 't']
  | '\x0C' => ['\\', 'f']
  | '\r' => ['\\', 'r']
  | '"' => ['\\', '"']
  | '\\' => ['\\', '\\']
  | '\n' => if multiline then ['\n'] else ['\\', 'n']
  | c =>
    if needsEscape c then ['\\', 'u', '0', '0', hexDigit (c.toNat / 16), hexDigit (c.toNat % 16)]
    else [c]

/-- The quotes of a style around a text; several lines start on a line of their own. -/
def enclose (quotes : String) (multiline : Bool) (body : List Char) : String :=
  quotes ++ (if multiline then "\n" else "") ++ String.ofList body ++ quotes

def stringText (s : String) : String :=
  let cs := s.toList
  let newline := cs.contains '\n'
  match Style.of cs with
  | .basic => enclose "\"" false cs
  | .literal => enclose "'" false cs
  | .multilineBasic => enclose "\"\"\"" newline cs
  | .multilineLiteral => enclose "'''" newline cs
  | .escaped false => enclose "\"" false (cs.flatMap (escapeChar false))
  | .escaped true => enclose "\"\"\"" true (cs.flatMap (escapeChar true))

def isBareKey (k : String) : Bool :=
  k ≠ "" && k.toList.all fun c => c.isAlphanum || c = '_' || c = '-'

def keyText (k : String) : String := if isBareKey k then k else stringText k

private def floatText (v : Decimal.Double) : String :=
  if v.isNaN then "nan" else if v.text.toList.all (fun c => c.isDigit || c = '-') then v.text ++ ".0"
  else v.text

/-- A value on its line. -/
def valueText : Toml → String
  | .string s => stringText s
  | .integer n => toString n
  | .float v => floatText v
  | .boolean b => if b then "true" else "false"
  | .time t => t
  | .array items =>
    match items with
    | [] => "[]"
    | [v] => "[" ++ v.valueText ++ "]"
    | vs => "[\n" ++ String.join (itemLines vs) ++ "]"
  | .table entries => "\x7b " ++ String.intercalate ", " (pairTexts entries) ++ " \x7d"
where
  itemLines : List Toml → List String
    | [] => []
    | v :: r => ("    " ++ v.valueText ++ ",\n") :: itemLines r
  pairTexts : List (String × Toml) → List String
    | [] => []
    | (k, v) :: r => (keyText k ++ " = " ++ v.valueText) :: pairTexts r

/-- A key and its value on a line. -/
def line (k : String) (v : Toml) : String := keyText k ++ " = " ++ v.valueText ++ "\n"

/-- The keys of a table that are no tables, one a line. -/
def plainLines (entries : List (String × Toml)) : String :=
  String.join (entries.map fun
    | (_, .table _) => ""
    | (k, v) => line k v)

/-- A document whose tables hold no tables of their own. -/
def documentText (entries : List (String × Toml)) : String :=
  let plain := plainLines entries
  let tables := entries.filterMap fun
    | (k, .table inner) => some ("[" ++ keyText k ++ "]\n" ++ plainLines inner)
    | _ => none
  String.intercalate "\n" ((if plain = "" then [] else [plain]) ++ tables)

end PointRelay.Toml
