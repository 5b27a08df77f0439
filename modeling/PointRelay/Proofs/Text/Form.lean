import PointRelay.Proofs.Text.Runs
import PointRelay.Proofs.Text.Utf8
import PointRelay.Text.Form

/-!
# Reading forms

The query of a request as its receiver reads it. Pieces between ampersands are pairs, each split at
its first equals sign; in a name or a value a plus sign stands for a space and percent-encoded bytes
for themselves. What is encoded as a form is read back whole, for no name and no value holds a
character of the form itself once it is encoded.
-/

namespace PointRelay.Text

namespace Percent

theorem hexDigit?_hexUpper {n : Nat} (digit : n < 16) :
    hexDigit? (UInt8.ofNat (hexUpper n).toNat) = some n := by
  revert n
  decide

theorem isAlphanum_hexUpper {n : Nat} (digit : n < 16) : (hexUpper n).isAlphanum = true := by
  revert n
  decide

theorem toNat_hexUpper_lt {n : Nat} (digit : n < 16) : (hexUpper n).toNat < 0x80 := by
  revert n
  decide

theorem decode_cons_of_ne {b : UInt8} (other : b ≠ 37) (rest : List UInt8) :
    decode (b :: rest) = b :: decode rest := by
  rw [decode]
  exact fun _ _ _ percent => absurd percent other

/-- A byte is read back from its two digits. -/
theorem decode_encodeByte (b : UInt8) (rest : List UInt8) :
    decode (Utf8.encode (encodeByte b) ++ rest) = b :: decode rest := by
  have bound : b.toNat < 256 := b.toNat_lt
  have high : b.toNat / 16 < 16 := by omega
  have low : b.toNat % 16 < 16 := by omega
  have bytes : Utf8.encode (encodeByte b) = [37, UInt8.ofNat (hexUpper (b.toNat / 16)).toNat,
      UInt8.ofNat (hexUpper (b.toNat % 16)).toNat] := by
    rw [encodeByte, Utf8.encode_cons_of_ascii (by decide),
      Utf8.encode_cons_of_ascii (toNat_hexUpper_lt high),
      Utf8.encode_cons_of_ascii (toNat_hexUpper_lt low)]
    rfl
  rw [bytes, List.cons_append, List.cons_append, List.cons_append, List.nil_append, decode,
    hexDigit?_hexUpper high, hexDigit?_hexUpper low]
  simp only
  rw [Nat.div_add_mod', UInt8.ofNat_toNat]

theorem decode_flatMap_encodeByte (bytes rest : List UInt8) :
    decode (Utf8.encode (bytes.flatMap encodeByte) ++ rest) = bytes ++ decode rest := by
  induction bytes with
  | nil => rfl
  | cons b later ih =>
    rw [List.flatMap_cons, Utf8.encode_append, List.append_assoc, decode_encodeByte, ih]
    rfl

/-- Where percent signs are encoded, decoding gives the bytes of the text. -/
theorem decode_encode {set : Char → Bool} (percent : set '%' = true) (cs : List Char) :
    decode (Utf8.encode (encode set cs)) = Utf8.encode cs := by
  induction cs with
  | nil => rfl
  | cons c rest ih =>
    have bytes : Utf8.encode (c :: rest) = Utf8.encode [c] ++ Utf8.encode rest :=
      Utf8.encode_append [c] rest
    rw [encode, List.flatMap_cons, ← encode, Utf8.encode_append, bytes]
    split
    · rw [decode_flatMap_encodeByte, ih]
    · rename_i plain
      simp only [Bool.or_eq_true, decide_eq_true_eq, not_or, Nat.not_le] at plain
      obtain ⟨ascii, unset⟩ := plain
      have other : UInt8.ofNat c.toNat ≠ 37 := by
        intro same
        have code : c.toNat = 37 := by
          rw [← Utf8.toNat_ofNat (show c.toNat < 256 by omega), same]
          rfl
        rw [show c = '%' from Char.toNat_inj.mp code] at unset
        exact unset percent
      rw [Utf8.encode_cons_of_ascii ascii, show Utf8.encode [] = [] from rfl, List.cons_append,
        List.nil_append, decode_cons_of_ne other, ih]
      rfl

/-- What stands in an encoded text. -/
theorem mem_encode {set : Char → Bool} {cs : List Char} {c : Char} (mem : c ∈ encode set cs) :
    c = '%' ∨ c.isAlphanum = true ∨ (c ∈ cs ∧ c.toNat < 0x80 ∧ set c = false) := by
  obtain ⟨d, there, mem⟩ := List.mem_flatMap.mp mem
  split at mem
  · obtain ⟨b, -, mem⟩ := List.mem_flatMap.mp mem
    have bound : b.toNat < 256 := b.toNat_lt
    simp only [encodeByte, List.mem_cons, List.not_mem_nil, or_false] at mem
    rcases mem with rfl | rfl | rfl
    · exact Or.inl rfl
    · exact Or.inr (Or.inl (isAlphanum_hexUpper (by omega)))
    · exact Or.inr (Or.inl (isAlphanum_hexUpper (by omega)))
  · rename_i plain
    obtain rfl := List.mem_singleton.mp mem
    simp only [Bool.or_eq_true, decide_eq_true_eq, not_or, Nat.not_le,
      Bool.not_eq_true] at plain
    exact Or.inr (Or.inr ⟨there, plain⟩)

end Percent

namespace Form

/-- The text of a name or a value. -/
def decodeText (cs : List Char) : String :=
  Utf8.toStringLossy
    (Percent.decode (Utf8.encode (cs.map fun c => if c = '+' then ' ' else c)))

/-- The name in front of the first equals sign and the value behind it. -/
def decodePair (cs : List Char) : String × String :=
  (decodeText (cs.takeWhile (· ≠ '=')), decodeText ((cs.dropWhile (· ≠ '=')).drop 1))

/-- The pairs of a form. Nothing stands between two ampersands that follow each other. -/
def decode (cs : List Char) : List (String × String) :=
  ((cs.splitOn '&').filter fun piece => !piece.isEmpty).map decodePair

/-- The characters with a meaning of their own in a form. -/
def reserved : List Char := ['%', '&', '=', '+']

theorem isEncoded_of_reserved : ∀ c ∈ reserved, isEncoded c = true := by
  simp [reserved, isEncoded]

/-- An ampersand or an equals sign stands in no encoded name or value, and a plus sign only for a
space. -/
theorem not_mem_encode {c : Char} (mark : c ∈ reserved) (other : c ≠ '%') (cs : List Char) :
    c ∉ Percent.encode (fun c => c != ' ' && isEncoded c) cs := by
  intro mem
  have encoded := isEncoded_of_reserved c mark
  rcases Percent.mem_encode mem with percent | letter | ⟨-, -, unset⟩
  · exact other percent
  · simp [isEncoded, letter] at encoded
  · have space : c ≠ ' ' := by
      rintro rfl
      exact absurd mark (by decide)
    simp [encoded, space] at unset

theorem not_mem_encodeText {c : Char} (mark : c ∈ ['&', '=']) (cs : List Char) :
    c ∉ encodeText cs := by
  intro mem
  obtain ⟨d, there, same⟩ := List.mem_map.mp mem
  split at same
  · obtain rfl := same
    exact absurd mark (by decide)
  · obtain rfl := same
    simp only [List.mem_cons, List.not_mem_nil, or_false] at mark
    rcases mark with rfl | rfl
    · exact not_mem_encode (by decide) (by decide) cs there
    · exact not_mem_encode (by decide) (by decide) cs there

theorem decodeText_encodeText (s : String) : decodeText (encodeText s.toList) = s := by
  have back : (encodeText s.toList).map (fun c => if c = '+' then ' ' else c) =
      Percent.encode (fun c => c != ' ' && isEncoded c) s.toList := by
    rw [encodeText, List.map_map]
    refine (List.map_congr_left fun c mem => ?_).trans (List.map_id _)
    by_cases space : c = ' '
    · simp [space]
    · have plus : c ≠ '+' := by
        rintro rfl
        exact not_mem_encode (by decide) (by decide) s.toList mem
      simp [space, plus]
  have percent : ('%' != ' ' && isEncoded '%') = true :=
    isEncoded_of_reserved '%' (by decide)
  rw [decodeText, back, Percent.decode_encode percent]
  exact Utf8.toStringLossy_ofString s

theorem decodePair_encodePair (p : String × String) : decodePair (encodePair p) = p := by
  have inside : ∀ c ∈ encodeText p.1.toList, decide (c ≠ '=') = true := by
    intro c mem
    rw [decide_eq_true_iff]
    rintro rfl
    exact not_mem_encodeText (by decide) p.1.toList mem
  have stop : ∀ c ∈ ('=' :: encodeText p.2.toList).head?, decide (c ≠ '=') = false := by
    intro c first
    obtain rfl := Option.some.inj first
    rfl
  obtain ⟨name, value⟩ := takeWhile_run inside stop
  rw [decodePair, encodePair, name, value, List.drop_one, List.tail_cons, decodeText_encodeText,
    decodeText_encodeText]

theorem amp_not_mem_encodePair (p : String × String) : '&' ∉ encodePair p := by
  rw [encodePair, List.mem_append, List.mem_cons]
  rintro (name | equals | value)
  · exact not_mem_encodeText (by decide) p.1.toList name
  · exact absurd equals (by decide)
  · exact not_mem_encodeText (by decide) p.2.toList value

theorem isEmpty_encodePair (p : String × String) : (encodePair p).isEmpty = false := by
  simp [encodePair]

theorem splitOn_encode {params : List (String × String)} (some : params ≠ []) :
    (encode params).splitOn '&' = params.map encodePair := by
  induction params with
  | nil => exact absurd rfl some
  | cons p rest ih =>
    cases rest with
    | nil => exact List.splitOn_eq_singleton (amp_not_mem_encodePair p)
    | cons q later =>
      rw [encode, List.splitOn_append_cons_self_of_not_mem (amp_not_mem_encodePair p),
        ih (List.cons_ne_nil q later)]
      · rfl
      · exact List.cons_ne_nil q later

/-- What is encoded as a form is read back whole. -/
theorem decode_encode (params : List (String × String)) : decode (encode params) = params := by
  by_cases some : params = []
  · subst some
    rfl
  · rw [decode, splitOn_encode some, List.filter_eq_self.mpr, List.map_map]
    · exact (List.map_congr_left fun p _ => decodePair_encodePair p).trans (List.map_id params)
    · intro piece mem
      obtain ⟨p, -, rfl⟩ := List.mem_map.mp mem
      rw [isEmpty_encodePair]
      rfl

end Form

end PointRelay.Text
