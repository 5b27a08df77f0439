import Mathlib.Tactic.IntervalCases
import PointRelay.Text.Utf8

/-!
# Text survives its bytes

The bytes of a character begin with one that announces how many follow, so a decoder that stands in
front of them finds the character and nothing else. Decoding the bytes of a text gives the text.
-/

namespace PointRelay.Text.Utf8

theorem encode_append (cs ds : List Char) : encode (cs ++ ds) = encode cs ++ encode ds :=
  List.flatMap_append

theorem encode_cons_of_ascii {c : Char} (ascii : c.toNat < 0x80) (rest : List Char) :
    encode (c :: rest) = UInt8.ofNat c.toNat :: encode rest := by
  have bytes : String.utf8EncodeChar c = [UInt8.ofNat c.toNat] := if_pos (Nat.le_of_lt_succ ascii)
  rw [encode, List.flatMap_cons, bytes]
  rfl

theorem toNat_ofNat {n : Nat} (byte : n < 256) : (UInt8.ofNat n).toNat = n :=
  UInt8.toNat_ofNat_of_lt' byte

/-- A continuation byte carries six bits. The first of them is kept within a range. -/
theorem continuation_cons {n lo hi acc taken bits : Nat} (rest : List UInt8) (bound : bits < 64)
    (low : lo ≤ bits + 128) (high : bits + 128 ≤ hi) :
    continuation (n + 1) lo hi acc taken (UInt8.ofNat (bits + 128) :: rest) =
      continuation n 0x80 0xBF (acc * 64 + bits) (taken + 1) rest := by
  have byte : (UInt8.ofNat (bits + 128)).toNat = bits + 128 := toNat_ofNat (by omega)
  rw [continuation]
  simp only [byte]
  rw [if_pos ⟨low, high⟩, Nat.add_sub_cancel]

theorem continuation_zero (lo hi acc taken : Nat) (rest : List UInt8) :
    continuation 0 lo hi acc taken rest = .inr acc := by
  rw [continuation]

theorem lead?_two {x : Nat} (low : 2 ≤ x) (high : x < 32) :
    lead? (x + 192) = some ⟨1, 0x80, 0xBF, x⟩ := by
  interval_cases x <;> rfl

/-- The shortest form is asked for, and half of a surrogate pair is refused. -/
theorem lead?_three {x : Nat} (high : x < 16) :
    lead? (x + 224) =
      some ⟨2, if x = 0 then 0xA0 else 0x80, if x = 13 then 0x9F else 0xBF, x⟩ := by
  interval_cases x <;> rfl

theorem lead?_four {x : Nat} (high : x < 5) :
    lead? (x + 240) =
      some ⟨3, if x = 0 then 0x90 else 0x80, if x = 4 then 0x8F else 0xBF, x⟩ := by
  interval_cases x <;> rfl

theorem firstChar_of_lead {n v lo hi bits : Nat} {tail rest : List UInt8} (byte : n < 256)
    (high : 0x80 ≤ n) (lead : lead? n = some ⟨tail.length, lo, hi, bits⟩)
    (follows : continuation tail.length lo hi bits 0 (tail ++ rest) = .inr v) :
    firstChar (UInt8.ofNat n) (tail ++ rest) = (some (Char.ofNat v), tail.length) := by
  rw [firstChar, toNat_ofNat byte, if_neg (Nat.not_lt.mpr high), lead]
  simp only
  rw [follows]

/-- A decoder in front of the bytes of a character reads it and stands behind them. -/
theorem firstChar_encodeChar (c : Char) (rest : List UInt8) :
    ∃ b tail, String.utf8EncodeChar c = b :: tail ∧
      firstChar b (tail ++ rest) = (some c, tail.length) := by
  have valid : c.toNat < 0xD800 ∨ 0xDFFF < c.toNat ∧ c.toNat < 0x110000 := c.valid
  have back : Char.ofNat c.toNat = c := c.ofNat_toNat
  have bytes : String.utf8EncodeChar c =
    if c.toNat ≤ 0x7F then [UInt8.ofNat c.toNat]
    else if c.toNat ≤ 0x7FF then
      [UInt8.ofNat (c.toNat / 64 % 32 + 192), UInt8.ofNat (c.toNat % 64 + 128)]
    else if c.toNat ≤ 0xFFFF then
      [UInt8.ofNat (c.toNat / 4096 % 16 + 224), UInt8.ofNat (c.toNat / 64 % 64 + 128),
        UInt8.ofNat (c.toNat % 64 + 128)]
    else [UInt8.ofNat (c.toNat / 262144 % 8 + 240), UInt8.ofNat (c.toNat / 4096 % 64 + 128),
      UInt8.ofNat (c.toNat / 64 % 64 + 128), UInt8.ofNat (c.toNat % 64 + 128)] := rfl
  rw [bytes]
  generalize c.toNat = v at valid back
  by_cases one : v ≤ 0x7F
  · refine ⟨_, [], if_pos one, ?_⟩
    rw [firstChar, toNat_ofNat (by omega), if_pos (by omega), back]
    rfl
  rw [if_neg one]
  by_cases two : v ≤ 0x7FF
  · refine ⟨_, _, if_pos two, ?_⟩
    rw [firstChar_of_lead (v := v) (by omega) (by omega) (lead?_two (by omega) (by omega)), back]
    simp only [List.length_cons, List.length_nil, List.cons_append, List.nil_append]
    rw [continuation_cons _ (by omega) (by omega) (by omega), continuation_zero]
    congr 1
    omega
  rw [if_neg two]
  by_cases three : v ≤ 0xFFFF
  · refine ⟨_, _, if_pos three, ?_⟩
    rw [firstChar_of_lead (v := v) (by omega) (by omega) (lead?_three (by omega)), back]
    simp only [List.length_cons, List.length_nil, List.cons_append, List.nil_append]
    rw [continuation_cons _ (by omega) (by split <;> omega)
      (by split <;> omega), continuation_cons _ (by omega) (by omega) (by omega),
      continuation_zero]
    congr 1
    omega
  · refine ⟨_, _, if_neg three, ?_⟩
    rw [firstChar_of_lead (v := v) (by omega) (by omega) (lead?_four (by omega)), back]
    simp only [List.length_cons, List.length_nil, List.cons_append, List.nil_append]
    rw [continuation_cons _ (by omega) (by split <;> omega)
      (by split <;> omega), continuation_cons _ (by omega) (by omega) (by omega),
      continuation_cons _ (by omega) (by omega) (by omega), continuation_zero]
    congr 1
    omega

theorem parts_go_encode (cs : List Char) (acc : List (Option Char)) :
    parts.go (encode cs) acc = acc.reverse ++ cs.map some := by
  induction cs generalizing acc with
  | nil =>
    rw [show encode [] = [] from rfl, parts.go]
    simp
  | cons c rest ih =>
    obtain ⟨b, tail, bytes, first⟩ := firstChar_encodeChar c (encode rest)
    have whole : encode (c :: rest) = b :: (tail ++ encode rest) := by
      rw [encode, List.flatMap_cons, bytes]
      rfl
    rw [whole, parts.go]
    simp only [first, List.drop_left, ih]
    simp

/-- The bytes of a text spell its characters and nothing else. -/
theorem parts_encode (cs : List Char) : parts (encode cs) = cs.map some :=
  parts_go_encode cs []

theorem decodeLossy_encode (cs : List Char) : decodeLossy (encode cs) = cs := by
  rw [decodeLossy, parts_encode, List.map_map]
  exact List.map_id cs

theorem toStringLossy_ofString (s : String) : toStringLossy (ofString s) = s := by
  rw [toStringLossy, ofString, decodeLossy_encode, String.ofList_toList]

end PointRelay.Text.Utf8
