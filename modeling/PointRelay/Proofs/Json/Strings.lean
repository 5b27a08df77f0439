import PointRelay.Json.Reader
import PointRelay.Json.Writer

/-!
# JSON strings read back

Every character of a string is written so that it is read as one piece, whatever stands behind it,
and the pieces joined are the string.
-/

namespace PointRelay.Json

theorem pieces_quote (r : List Char) (acc : List Piece) :
    pieces ('"' :: r) acc = some (acc, r) := by
  rw [pieces]

theorem pieces_escape {e c : Char} (simple : simpleEscape? e = some c) (r : List Char)
    (acc : List Piece) : pieces ('\\' :: e :: r) acc = pieces r (.char c :: acc) := by
  rw [pieces]
  · simp only [simple]
  · rintro rfl
    cases simple

theorem pieces_unit {cs r : List Char} {u : Nat} (unit : unit? cs = some (u, r))
    (whole : ¬ (0xD800 ≤ u ∧ u < 0xE000)) (acc : List Piece) :
    pieces ('\\' :: 'u' :: cs) acc = pieces r (.char (Char.ofNat u) :: acc) := by
  rw [pieces]
  split
  · rename_i none
    rw [unit] at none
    cases none
  · rename_i found
    rw [unit] at found
    obtain ⟨rfl, rfl⟩ := Prod.mk.inj (Option.some.inj found)
    rw [if_neg whole]

theorem pieces_plain {c : Char} (quote : c ≠ '"') (backslash : c ≠ '\\') (visible : ¬ c.toNat < 32)
    (r : List Char) (acc : List Piece) : pieces (c :: r) acc = pieces r (.char c :: acc) := by
  rw [pieces]
  · simp [backslash, visible]
  · exact quote
  · intro _ same
    exact absurd same backslash
  · intro _ _ same
    exact absurd same backslash

theorem unit?_hexChars : ∀ n < 32, ∀ r,
    unit? ('0' :: '0' :: hexChar (n / 16) :: hexChar (n % 16) :: r) = some (n, r) := by
  have digits : ∀ n < 32, hexDigit? (hexChar (n / 16)) = some (n / 16) ∧
      hexDigit? (hexChar (n % 16)) = some (n % 16) := by
    decide
  intro n small r
  have zero : hexDigit? '0' = some 0 := rfl
  have value : 0 * 4096 + 0 * 256 + n / 16 * 16 + n % 16 = n := by omega
  simp only [unit?, zero, digits n small, Option.bind_eq_bind, Option.bind_some, value]

/-- What is written for a character is read as that character. -/
theorem pieces_escapeChar (c : Char) (r : List Char) (acc : List Piece) :
    pieces (escapeChar c ++ r) acc = pieces r (.char c :: acc) := by
  unfold escapeChar
  split
  · exact pieces_escape rfl r acc
  · exact pieces_escape rfl r acc
  · exact pieces_escape rfl r acc
  · exact pieces_escape rfl r acc
  · exact pieces_escape rfl r acc
  · exact pieces_escape rfl r acc
  · exact pieces_escape rfl r acc
  · rename_i quote backslash _ _ _ _ _
    by_cases control : c.toNat < 32
    · rw [if_pos control]
      have read := pieces_unit (unit?_hexChars c.toNat control r) (by omega) acc
      rw [Char.ofNat_toNat] at read
      exact read
    · rw [if_neg control]
      exact pieces_plain quote backslash control r acc

theorem pieces_escaped (s rest : List Char) (acc : List Piece) :
    pieces (s.flatMap escapeChar ++ '"' :: rest) acc =
      some ((s.map .char).reverse ++ acc, rest) := by
  induction s generalizing acc with
  | nil => exact pieces_quote rest acc
  | cons c s ih =>
    rw [List.flatMap_cons, List.append_assoc, pieces_escapeChar, ih]
    simp

theorem join_chars (s acc : List Char) : join acc (s.map .char) = some (s.reverse ++ acc) := by
  induction s generalizing acc with
  | nil => rfl
  | cons c s ih =>
    rw [List.map_cons, join, ih]
    simp

theorem readString_escaped (s : String) (rest : List Char) :
    readString (s.toList.flatMap escapeChar ++ '"' :: rest) = some (some s, rest) := by
  have joined := join_chars s.toList.reverse []
  rw [List.reverse_reverse, List.append_nil, List.map_reverse] at joined
  simp only [readString, pieces_escaped, List.append_nil, Option.map_some, joined,
    String.ofList_toList]

theorem toList_quoted (s : String) (rest : List Char) :
    (quoted s).toList ++ rest = '"' :: (s.toList.flatMap escapeChar ++ '"' :: rest) := by
  simp [quoted]

end PointRelay.Json
