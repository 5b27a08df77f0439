/-!
# Text as bytes

Bytes are lists of `UInt8` and text is a list of characters. Encoding is total. Decoding comes in
two forms: `decode?` refuses bytes that are not UTF-8, and `decodeLossy` puts U+FFFD in the place
of each maximal part that cannot begin or continue a character.
-/

namespace PointRelay.Text.Utf8

/-- The bytes of a text. -/
def encode (cs : List Char) : List UInt8 := cs.flatMap String.utf8EncodeChar

def ofString (s : String) : List UInt8 := encode s.toList

/-- What a leading byte announces: how many bytes follow, the range of the first of them, and the
bits of the character that the leading byte carries. -/
structure Lead where
  following : Nat
  lo : Nat
  hi : Nat
  bits : Nat

def lead? (b : Nat) : Option Lead :=
  if b < 0xC2 then none
  else if b < 0xE0 then some ⟨1, 0x80, 0xBF, b - 0xC0⟩
  else if b = 0xE0 then some ⟨2, 0xA0, 0xBF, 0⟩
  else if b = 0xED then some ⟨2, 0x80, 0x9F, 0xD⟩
  else if b < 0xF0 then some ⟨2, 0x80, 0xBF, b - 0xE0⟩
  else if b = 0xF0 then some ⟨3, 0x90, 0xBF, 0⟩
  else if b < 0xF4 then some ⟨3, 0x80, 0xBF, b - 0xF0⟩
  else if b = 0xF4 then some ⟨3, 0x80, 0x8F, 4⟩
  else none

/-- Read `n` continuation bytes, the first of them between `lo` and `hi`. On failure the number of
bytes that still fit is returned. -/
def continuation (n lo hi acc taken : Nat) : List UInt8 → Nat ⊕ Nat
  | rest =>
    match n, rest with
    | 0, _ => .inr acc
    | _ + 1, [] => .inl taken
    | n + 1, b :: rest =>
      if lo ≤ b.toNat ∧ b.toNat ≤ hi then
        continuation n 0x80 0xBF (acc * 64 + (b.toNat - 0x80)) (taken + 1) rest
      else .inl taken

/-- The first character, or `none` when the bytes do not start with one, and the number of bytes
after the first that belong to it. -/
def firstChar (b : UInt8) (rest : List UInt8) : Option Char × Nat :=
  if b.toNat < 0x80 then (some (Char.ofNat b.toNat), 0)
  else
    match lead? b.toNat with
    | none => (none, 0)
    | some l =>
      match continuation l.following l.lo l.hi l.bits 0 rest with
      | .inr code => (some (Char.ofNat code), l.following)
      | .inl taken => (none, taken)

/-- The parts of a byte string: a character, or `none` for a part that spells none. -/
def parts (bytes : List UInt8) : List (Option Char) :=
  go bytes []
where
  go (bytes : List UInt8) (acc : List (Option Char)) : List (Option Char) :=
    match bytes with
    | [] => acc.reverse
    | b :: rest =>
      let (c, n) := firstChar b rest
      go (rest.drop n) (c :: acc)
  termination_by bytes.length
  decreasing_by rw [List.length_drop, List.length_cons]; omega

def decode? (bytes : List UInt8) : Option (List Char) :=
  let ps := parts bytes
  if ps.all Option.isSome then some (ps.filterMap id) else none

def decodeLossy (bytes : List UInt8) : List Char :=
  (parts bytes).map (·.getD '\uFFFD')

def toString? (bytes : List UInt8) : Option String := (decode? bytes).map String.ofList

def toStringLossy (bytes : List UInt8) : String := String.ofList (decodeLossy bytes)

/-- Where bytes stop being text: behind how many bytes, and how many bytes there begin a character
that does not come. At the very end a character may be cut off, and then their number is not told. -/
structure Fault where
  index : Nat
  length : Option Nat
deriving DecidableEq, Repr

def Fault.message (f : Fault) : String :=
  match f.length with
  | some n => "invalid utf-8 sequence of " ++ toString n ++ " bytes from index " ++ toString f.index
  | none => "incomplete utf-8 byte sequence from index " ++ toString f.index

/-- The first fault behind `index` bytes of text. -/
def faultFrom? (index : Nat) (bytes : List UInt8) : Option Fault :=
  match bytes with
  | [] => none
  | b :: rest =>
    match firstChar b rest with
    | (some _, n) => faultFrom? (index + 1 + n) (rest.drop n)
    | (none, n) =>
      let cutOff := (lead? b.toNat).isSome && rest.length == n
      some ⟨index, if cutOff then none else some (n + 1)⟩
  termination_by bytes.length
  decreasing_by rw [List.length_drop, List.length_cons]; omega

/-- The lines of some bytes, each with its line break. -/
def lines (bytes : List UInt8) : List (List UInt8) :=
  go [] bytes
where
  go (line : List UInt8) : List UInt8 → List (List UInt8)
    | [] => if line.isEmpty then [] else [line.reverse]
    | 10 :: rest => (10 :: line).reverse :: go [] rest
    | b :: rest => go (b :: line) rest

end PointRelay.Text.Utf8
