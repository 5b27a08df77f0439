import PointRelay.Toml.Tree
import PointRelay.Decimal.Reading

/-!
# Reading TOML

Version 1.1 of the format: inline tables may span lines, and strings know `\e` and `\xHH`. The
reader works on the rest of the text; values nest in arrays and inline tables up to a depth.
-/

namespace PointRelay.Toml

open Decimal

def isBlank (c : Char) : Bool := c = ' ' || c = '\t'

def skipBlanks (cs : List Char) : List Char := cs.dropWhile isBlank

/-- Control characters other than the tab. -/
def isControl (c : Char) : Bool := (c.toNat < 0x20 && c ≠ '\t') || c.toNat == 0x7F

/-- The rest of a line after a comment, if one stands there. -/
def skipComment (cs : List Char) : Option (List Char) :=
  match cs with
  | '#' :: r =>
    let rest := r.dropWhile fun c => !isControl c
    match rest with
    | [] | '\n' :: _ | '\r' :: '\n' :: _ => some rest
    | _ => none
  | r => some r

/-- The text after a line break. -/
def newline? (cs : List Char) : Option (List Char) :=
  match cs with
  | '\n' :: r | '\r' :: '\n' :: r => some r
  | _ => none

/-- Skip blanks, comments and line breaks. -/
def skipLines : Nat → List Char → Option (List Char)
  | 0, _ => none
  | fuel + 1, cs => do
    let r ← skipComment (skipBlanks cs)
    match newline? r with
    | some r => skipLines fuel r
    | none => some r

/-! ### Strings -/

def hexValue? (cs : List Char) : Option Nat :=
  cs.foldl (fun acc c => do
    let n ← acc
    if c.isDigit then some (n * 16 + (c.toNat - 48))
    else if 'a' ≤ c ∧ c ≤ 'f' then some (n * 16 + (c.toNat - 87))
    else if 'A' ≤ c ∧ c ≤ 'F' then some (n * 16 + (c.toNat - 55))
    else none) (some 0)

def codePoint? (digits : Nat) (cs : List Char) : Option (Char × List Char) :=
  if cs.length < digits then none
  else do
    let n ← hexValue? (cs.take digits)
    if Nat.isValidChar n then some (Char.ofNat n, cs.drop digits) else none

/-- The character of an escape, after its backslash. -/
def escape? (cs : List Char) : Option (Char × List Char) :=
  match cs with
  | 'b' :: r => some ('\x08', r)
  | 't' :: r => some ('\t', r)
  | 'n' :: r => some ('\n', r)
  | 'f' :: r => some ('\x0C', r)
  | 'r' :: r => some ('\r', r)
  | 'e' :: r => some ('\x1B', r)
  | '"' :: r => some ('"', r)
  | '\\' :: r => some ('\\', r)
  | 'x' :: r => codePoint? 2 r
  | 'u' :: r => codePoint? 4 r
  | 'U' :: r => codePoint? 8 r
  | _ => none

/-- The rest of a basic string on one line. -/
def basic (acc : List Char) : Nat → List Char → Option (String × List Char)
  | 0, _ | _, [] => none
  | fuel + 1, c :: r =>
    if c = '"' then some (String.ofList acc.reverse, r)
    else if c = '\\' then do
      let (c, r) ← escape? r
      basic (c :: acc) fuel r
    else if isControl c then none
    else basic (c :: acc) fuel r

/-- The rest of a literal string on one line. -/
def literal (cs : List Char) : Option (String × List Char) :=
  let s := cs.takeWhile fun c => c ≠ '\'' && !isControl c
  match cs.drop s.length with
  | '\'' :: r => some (String.ofList s, r)
  | _ => none

/-- Blanks up to a line break, then all blanks and line breaks. -/
def lineEnd? (cs : List Char) : Option (List Char) := do
  let r ← newline? (skipBlanks cs)
  some (skipAll r)
where
  skipAll (cs : List Char) : List Char :=
    match cs with
    | ' ' :: r | '\t' :: r | '\n' :: r | '\r' :: '\n' :: r => skipAll r
    | r => r

/-- The rest of a string over several lines. Up to two quotes may stand before the closing ones. -/
def multiline (quote : Char) (escapes : Bool) (acc : List Char) :
    Nat → List Char → Option (String × List Char)
  | 0, _ | _, [] => none
  | fuel + 1, c :: r =>
    if c = quote then
      let n := (r.takeWhile (· = quote)).length + 1
      if n < 3 then multiline quote escapes (c :: acc) fuel r
      else if 5 < n then none
      else some (String.ofList (List.replicate (n - 3) quote ++ acc).reverse, r.drop (n - 1))
    else if c = '\\' && escapes then
      match lineEnd? r with
      | some r => multiline quote escapes acc fuel r
      | none => do
        let (c, r) ← escape? r
        multiline quote escapes (c :: acc) fuel r
    else
      match newline? (c :: r) with
      | some r => multiline quote escapes ('\n' :: acc) fuel r
      | none => if isControl c then none else multiline quote escapes (c :: acc) fuel r

/-- The text after a line break right behind the opening quotes. -/
def skipFirstNewline (cs : List Char) : List Char := (newline? cs).getD cs

def string? (cs : List Char) : Option (String × List Char) :=
  match cs with
  | '"' :: '"' :: '"' :: r => multiline '"' true [] (cs.length + 1) (skipFirstNewline r)
  | '\'' :: '\'' :: '\'' :: r => multiline '\'' false [] (cs.length + 1) (skipFirstNewline r)
  | '"' :: r => basic [] (cs.length + 1) r
  | '\'' :: r => literal r
  | _ => none

/-! ### Keys -/

def isKeyChar (c : Char) : Bool := c.isAlphanum || c = '_' || c = '-'

def simpleKey? (cs : List Char) : Option (String × List Char) :=
  match cs with
  | '"' :: '"' :: '"' :: _ | '\'' :: '\'' :: '\'' :: _ => none
  | '"' :: r => basic [] (cs.length + 1) r
  | '\'' :: r => literal r
  | r =>
    let k := r.takeWhile isKeyChar
    if k.isEmpty then none else some (String.ofList k, r.drop k.length)

/-- Keys with dots between them and blanks around the dots. -/
def key? : Nat → List Char → Option (List String × List Char)
  | 0, _ => none
  | fuel + 1, cs => do
    let (k, r) ← simpleKey? (skipBlanks cs)
    match skipBlanks r with
    | '.' :: r => do
      let (ks, r) ← key? fuel r
      some (k :: ks, r)
    | r => some ([k], r)

/-! ### Scalars -/

/-- The digits of a number without the underscores between them. -/
def separated? (isDigit : Char → Bool) (cs : List Char) : Option (List Char) :=
  match cs with
  | [] => none
  | c :: r => if isDigit c then go [c] r else none
where
  go (acc : List Char) : List Char → Option (List Char)
    | [] => some acc.reverse
    | '_' :: c :: r => if isDigit c then go (c :: acc) r else none
    | c :: r => if isDigit c then go (c :: acc) r else none

def radixInteger? (radix : Nat) (isDigit : Char → Bool) (cs : List Char) : Option Int := do
  let ds ← separated? isDigit cs
  some ((ds.foldl (fun n c =>
    n * radix + (if c.isDigit then c.toNat - 48 else c.toLower.toNat - 87)) 0 : Nat) : Int)

/-- Decimal digits without a needless zero in front. -/
def plainDigits? (cs : List Char) : Option (List Char) := do
  let ds ← separated? Char.isDigit cs
  if ds.head? = some '0' ∧ 1 < ds.length then none else some ds

def integer? (cs : List Char) : Option Int :=
  match cs with
  | '0' :: 'x' :: r => radixInteger? 16 (fun c => c.isDigit || ('a' ≤ c.toLower && c.toLower ≤ 'f')) r
  | '0' :: 'o' :: r => radixInteger? 8 (fun c => '0' ≤ c && c ≤ '7') r
  | '0' :: 'b' :: r => radixInteger? 2 (fun c => c = '0' || c = '1') r
  | _ => do
    let (neg, r) := splitSign cs
    let n : Int := digitsValue (← plainDigits? r)
    some (if neg then -n else n)

/-- Integers beyond 128 bits are refused. -/
def boundedInteger? (cs : List Char) : Option Toml := do
  let n ← integer? cs
  if -0x80000000000000000000000000000000 ≤ n ∧ n < 0x100000000000000000000000000000000 then some (.integer n) else none

def float? (cs : List Char) : Option Toml := do
  let (neg, r) := splitSign cs
  match String.ofList r with
  | "inf" => some (.float (.infinity neg))
  | "nan" => some (.float ⟨0x7FF8000000000000⟩)
  | _ =>
    let inWhole (c : Char) : Bool := c ≠ '.' && c ≠ 'e' && c ≠ 'E'
    let whole ← plainDigits? (r.takeWhile inWhole)
    let r := r.dropWhile inWhole
    let (fraction, r) ← match r with
      | '.' :: r => do
        let inFraction (c : Char) : Bool := c ≠ 'e' && c ≠ 'E'
        some (← separated? Char.isDigit (r.takeWhile inFraction), r.dropWhile inFraction)
      | r => some ([], r)
    let exponent : Int ← match r with
      | [] => if fraction.isEmpty then none else some 0
      | _ :: r => do
        let (eneg, r) := splitSign r
        let e : Int := digitsValue (← separated? Char.isDigit r)
        some (if eneg then -e else e)
    let v := Double.ofDecimal neg (digitsValue (whole ++ fraction)) (exponent - fraction.length)
    if v.isInfinite then none else some (.float v)

def twoDigits? (cs : List Char) : Option (Nat × List Char) :=
  match cs with
  | a :: b :: r =>
    if a.isDigit && b.isDigit then some (digitsValue [a, b], r) else none
  | _ => none

/-- A date `YYYY-MM-DD`. -/
def date? (cs : List Char) : Option (List Char) := do
  let (a, r) ← twoDigits? cs
  let (b, r) ← twoDigits? r
  let year := a * 100 + b
  match r with
  | '-' :: r => do
    let (m, r) ← twoDigits? r
    match r with
    | '-' :: r => do
      let (d, r) ← twoDigits? r
      let leap := year % 4 = 0 ∧ (year % 100 ≠ 0 ∨ year % 400 = 0)
      let length := match m with
        | 2 => if leap then 29 else 28
        | 4 | 6 | 9 | 11 => 30
        | _ => 31
      if 1 ≤ m ∧ m ≤ 12 ∧ 1 ≤ d ∧ d ≤ length then some r else none
    | _ => none
  | _ => none

/-- A time of day `HH:MM`, with seconds and their fraction if they are given. -/
def timeOfDay? (cs : List Char) : Option (List Char) := do
  let (h, r) ← twoDigits? cs
  match r with
  | ':' :: r => do
    let (m, r) ← twoDigits? r
    if 23 < h ∨ 59 < m then none
    else
      match r with
      | ':' :: r => do
        let (s, r) ← twoDigits? r
        if 60 < s then none
        else
          match r with
          | '.' :: r =>
            let ds := r.takeWhile Char.isDigit
            if ds.isEmpty then none else some (r.drop ds.length)
          | r => some r
      | r => some r
  | _ => none

/-- The end of a time, with an offset from UTC if it is given. -/
def isOffset (cs : List Char) : Bool :=
  match cs with
  | [] | ['Z'] | ['z'] => true
  | s :: r =>
    if s = '+' ∨ s = '-' then
      match twoDigits? r with
      | some (h, ':' :: r) =>
        match twoDigits? r with
        | some (m, []) => h ≤ 23 && m ≤ 59
        | _ => false
      | _ => false
    else false

def isTime (cs : List Char) : Bool :=
  match date? cs with
  | some [] => true
  | some (c :: r) =>
    (c = 'T' || c = 't' || c = ' ') &&
      (match timeOfDay? r with
        | some r => isOffset r
        | none => false)
  | none => timeOfDay? cs = some []

def isScalarChar (c : Char) : Bool :=
  c.isAlphanum || c = '+' || c = '-' || c = '_' || c = '.' || c = ':'

/-- The characters of a scalar. One blank may stand between a date and a time. -/
def splitScalar (cs : List Char) : List Char × List Char :=
  let s := cs.takeWhile isScalarChar
  let r := cs.drop s.length
  match date? s, r with
  | some [], ' ' :: a :: r' =>
    if a.isDigit then
      let t := (a :: r').takeWhile isScalarChar
      (s ++ ' ' :: t, (a :: r').drop t.length)
    else (s, r)
  | _, _ => (s, r)

def scalar? (s : List Char) : Option Toml :=
  match String.ofList s with
  | "true" => some (.boolean true)
  | "false" => some (.boolean false)
  | text =>
    match boundedInteger? s with
    | some v => some v
    | none =>
      if (integer? s).isSome then none
      else
        match float? s with
        | some v => some v
        | none => if isTime s then some (.time text) else none

/-! ### Values -/

/-- Arrays and inline tables may be nested this deep. -/
def depthLimit : Nat := 80

mutual

def value? (depth fuel : Nat) (cs : List Char) : Option (Toml × List Char) :=
  match fuel with
  | 0 => none
  | fuel + 1 =>
    match cs with
    | '"' :: _ | '\'' :: _ => (string? cs).map fun (s, r) => (.string s, r)
    | '[' :: r => if depth = 0 then none else items? (depth - 1) fuel [] r
    | '\x7b' :: r => if depth = 0 then none else pairs? (depth - 1) fuel [] r
    | _ => do
      let (s, r) := splitScalar cs
      some (← scalar? s, r)

/-- The items of an array up to its end. -/
def items? (depth fuel : Nat) (acc : List Toml) (cs : List Char) : Option (Toml × List Char) :=
  match fuel with
  | 0 => none
  | fuel + 1 => do
    let r ← skipLines (cs.length + 1) cs
    match r with
    | ']' :: r => some (.array acc.reverse, r)
    | r => do
      let (v, r) ← value? depth fuel r
      match ← skipLines (r.length + 1) r with
      | ',' :: r => items? depth fuel (v :: acc) r
      | ']' :: r => some (.array (v :: acc).reverse, r)
      | _ => none

/-- The pairs of an inline table up to its end. -/
def pairs? (depth fuel : Nat) (acc : Entries) (cs : List Char) : Option (Toml × List Char) :=
  match fuel with
  | 0 => none
  | fuel + 1 => do
    let r ← skipLines (cs.length + 1) cs
    match r with
    | '\x7d' :: r => some ((Node.table .dotted acc).toToml, r)
    | r => do
      let (k, r) ← key? (r.length + 1) r
      match r with
      | '=' :: r => do
        let r ← skipLines (r.length + 1) r
        let (v, r) ← value? depth fuel r
        let acc ← assign v k acc
        match ← skipLines (r.length + 1) r with
        | ',' :: r => pairs? depth fuel acc r
        | '\x7d' :: r => some ((Node.table .dotted acc).toToml, r)
        | _ => none
      | _ => none

end

/-! ### Documents -/

/-- The end of a line, with blanks and a comment before it. -/
def endOfLine? (cs : List Char) : Option (List Char) := do
  match ← skipComment (skipBlanks cs) with
  | [] => some []
  | r => newline? r

/-- The tree built so far, and the table to which the next lines add. -/
structure Document where
  root : Entries
  current : List String

/-- A header of a table or of an element of an array of tables. -/
def header? (d : Document) (cs : List Char) : Option (Document × List Char) := do
  let (element, r) := match cs with
    | '[' :: r => (true, r)
    | r => (false, r)
  let (path, r) ← key? (r.length + 1) r
  let last ← path.getLast?
  let root ← descend (if element then openElement last else openTable last) path.dropLast d.root
  match element, r with
  | false, ']' :: r | true, ']' :: ']' :: r => some (⟨root, path⟩, r)
  | _, _ => none

/-- A key with its value. -/
def keyValue? (d : Document) (cs : List Char) : Option (Document × List Char) := do
  let (k, r) ← key? (cs.length + 1) cs
  match r with
  | '=' :: r => do
    let r := skipBlanks r
    let (v, r) ← value? depthLimit (2 * r.length + 2) r
    let root ← descend (assign v k) d.current d.root
    some ({ d with root := root }, r)
  | _ => none

def lines? (d : Document) : Nat → List Char → Option Document
  | 0, _ => none
  | fuel + 1, cs =>
    match skipBlanks cs with
    | [] => some d
    | c :: r =>
      if c = '#' ∨ c = '\n' ∨ c = '\r' then do lines? d fuel (← endOfLine? (c :: r))
      else do
        let (d, r) ← if c = '[' then header? d r else keyValue? d (c :: r)
        lines? d fuel (← endOfLine? r)

/-- Read a whole document. A byte order mark may stand before it. -/
def read? (s : String) : Option Toml := do
  let cs := match s.toList with
    | '\uFEFF' :: r => r
    | r => r
  let d ← lines? ⟨[], []⟩ (cs.length + 1) cs
  some ((Node.table .header d.root).toToml)

end PointRelay.Toml
