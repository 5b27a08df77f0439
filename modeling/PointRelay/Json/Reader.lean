import PointRelay.Json.Basic

/-!
# Reading JSON

A reader by recursion on the rest of the text. Each call takes at least one character, so the
length of the text bounds the depth of the calls. Blanks are the four of the format; a number has
no leading zeros; a string holds no bare control character.
-/

namespace PointRelay.Json

/-- The blanks between tokens. -/
def isSpace (c : Char) : Bool := c = ' ' || c = '\n' || c = '\t' || c = '\r'

def skipSpace (cs : List Char) : List Char := cs.dropWhile isSpace

def hexDigit? (c : Char) : Option Nat :=
  if c.isDigit then some (c.toNat - 48)
  else if 'a' ≤ c ∧ c ≤ 'f' then some (c.toNat - 87)
  else if 'A' ≤ c ∧ c ≤ 'F' then some (c.toNat - 55)
  else none

/-- Four hexadecimal digits. -/
def unit? (cs : List Char) : Option (Nat × List Char) :=
  match cs with
  | a :: b :: c :: d :: r => do
    some ((← hexDigit? a) * 4096 + (← hexDigit? b) * 256 + (← hexDigit? c) * 16 + (← hexDigit? d), r)
  | _ => none

/-- One character of a string, or one half of a surrogate pair. -/
inductive Piece where
  | char (c : Char)
  | half (unit : Nat)

def simpleEscape? : Char → Option Char
  | '"' => some '"'
  | '\\' => some '\\'
  | '/' => some '/'
  | 'b' => some '\x08'
  | 'f' => some '\x0C'
  | 'n' => some '\n'
  | 'r' => some '\r'
  | 't' => some '\t'
  | _ => none

/-- The pieces of a string, latest first, and the text after the closing quote. -/
def pieces (cs : List Char) (acc : List Piece) : Option (List Piece × List Char) :=
  match cs with
  | [] => none
  | '"' :: r => some (acc, r)
  | '\\' :: 'u' :: r =>
    match h : unit? r with
    | none => none
    | some (u, rest) =>
      have : rest.length < r.length := by
        unfold unit? at h
        split at h
        · simp only [Option.bind_eq_bind, Option.bind_eq_some_iff, Option.some.injEq,
            Prod.mk.injEq] at h
          obtain ⟨_, _, _, _, _, _, _, _, _, h⟩ := h
          subst h
          simp only [List.length_cons]
          omega
        · cases h
      pieces rest ((if 0xD800 ≤ u ∧ u < 0xE000 then .half u else .char (Char.ofNat u)) :: acc)
  | '\\' :: c :: r =>
    match simpleEscape? c with
    | none => none
    | some c => pieces r (.char c :: acc)
  | c :: r => if c.toNat < 32 || c = '\\' then none else pieces r (.char c :: acc)
termination_by cs.length

/-- Join the pieces, latest first, into text. A half that is not part of a pair spells nothing. -/
def join (acc : List Char) : List Piece → Option (List Char)
  | [] => some acc
  | .char c :: r => join (c :: acc) r
  | .half lo :: .half hi :: r =>
    if 0xDC00 ≤ lo ∧ hi < 0xDC00 then
      join (Char.ofNat (0x10000 + (hi - 0xD800) * 1024 + (lo - 0xDC00)) :: acc) r
    else none
  | .half _ :: _ => none

/-- The rest of a string after its opening quote. -/
def readString (cs : List Char) : Option (Option String × List Char) :=
  (pieces cs []).map fun (ps, r) => ((join [] ps).map String.ofList, r)

def digits1? (cs : List Char) : Option (List Char × List Char) :=
  let ds := cs.takeWhile Char.isDigit
  if ds.isEmpty then none else some (ds, cs.dropWhile Char.isDigit)

def readExponent (cs : List Char) : Option (Option (Bool × List Char) × List Char) :=
  match cs with
  | c :: r =>
    if c = 'e' ∨ c = 'E' then do
      let (neg, r) :=
        match r with
        | '-' :: r => (true, r)
        | '+' :: r => (false, r)
        | r => (false, r)
      let (ds, r) ← digits1? r
      some (some (neg, ds), r)
    else some (none, cs)
  | [] => some (none, cs)

def readNumber (cs : List Char) : Option (Literal × List Char) := do
  let (neg, r) :=
    match cs with
    | '-' :: r => (true, r)
    | r => (false, r)
  let (whole, r) ← digits1? r
  if whole.head? = some '0' ∧ 1 < whole.length then none
  else
    let (fraction, r) ← match r with
      | '.' :: r => do
        let (ds, r) ← digits1? r
        some (some ds, r)
      | r => some (none, r)
    let (exponent, r) ← readExponent r
    some (⟨neg, whole, fraction, exponent⟩, r)

/-- The rest of the text after a word. -/
def word? (w : List Char) (cs : List Char) : Option (List Char) :=
  if w.isPrefixOf cs then some (cs.drop w.length) else none

mutual

/-- A value after blanks. -/
def readValue (fuel : Nat) (cs : List Char) : Option (Json × List Char) :=
  match fuel with
  | 0 => none
  | fuel + 1 =>
    match skipSpace cs with
    | '"' :: r => do
      let (s, r) ← readString r
      some (.string s, r)
    | '[' :: r =>
      match skipSpace r with
      | ']' :: r => some (.array [], r)
      | r => readItems fuel r []
    | '{' :: r =>
      match skipSpace r with
      | '}' :: r => some (.object [], r)
      | r => readMembers fuel r []
    | 't' :: r => (word? "rue".toList r).map fun r => (.bool true, r)
    | 'f' :: r => (word? "alse".toList r).map fun r => (.bool false, r)
    | 'n' :: r => (word? "ull".toList r).map fun r => (.null, r)
    | r => do
      let (n, r) ← readNumber r
      some (.number n, r)

/-- The items of an array up to its end. -/
def readItems (fuel : Nat) (cs : List Char) (acc : List Json) : Option (Json × List Char) :=
  match fuel with
  | 0 => none
  | fuel + 1 => do
    let (j, r) ← readValue fuel cs
    match skipSpace r with
    | ',' :: r => readItems fuel r (j :: acc)
    | ']' :: r => some (.array (j :: acc).reverse, r)
    | _ => none

/-- The members of an object up to its end. -/
def readMembers (fuel : Nat) (cs : List Char) (acc : List (Option String × Json)) :
    Option (Json × List Char) :=
  match fuel with
  | 0 => none
  | fuel + 1 =>
    match skipSpace cs with
    | '"' :: r => do
      let (key, r) ← readString r
      match skipSpace r with
      | ':' :: r => do
        let (j, r) ← readValue fuel r
        match skipSpace r with
        | ',' :: r => readMembers fuel r ((key, j) :: acc)
        | '}' :: r => some (.object ((key, j) :: acc).reverse, r)
        | _ => none
      | _ => none
    | _ => none

end

/-- Read a whole text as one value with blanks around it. -/
def read? (s : String) : Option Json := do
  let cs := s.toList
  let (j, r) ← readValue (2 * cs.length + 1) cs
  if (skipSpace r).isEmpty then some j else none

end PointRelay.Json
