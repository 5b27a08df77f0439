import PointRelay.Proofs.Decimal.RoundTrip
import PointRelay.Proofs.Line.Reader

/-!
# The parts of a line read back

Each part of a line is read back from its written form, whatever follows it, as long as that begins
with a character that ends the part. An unquoted text must hold no line break and must not end in a
backslash, which would escape the character behind it.
-/

namespace PointRelay.Line

open Decimal

/-- Text that can be written without quotes. -/
structure Unquoted (cs : List Char) : Prop where
  one_line : '\n' ∉ cs
  no_escape : cs.getLast? ≠ some '\\'

/-- What follows a part begins with a character that ends it. -/
def Ends (special : List Char) (rest : List Char) : Prop :=
  ∀ c ∈ rest.head?, c ∈ special ∨ c = '\n'

theorem Unquoted.tail {c : Char} {cs : List Char} (h : Unquoted (c :: cs)) : Unquoted cs := by
  refine ⟨fun mem => h.one_line (List.mem_cons_of_mem c mem), fun last => h.no_escape ?_⟩
  cases cs with
  | nil => simp at last
  | cons d ds => rw [List.getLast?_cons_cons, last]

theorem part_ends {special rest : List Char} (noBackslash : '\\' ∉ special)
    (ends : Ends special rest) : part special rest = ([], rest) := by
  cases rest with
  | nil => rfl
  | cons c r =>
    have hc := ends c rfl
    have hne : c ≠ '\\' := by
      rintro rfl
      rcases hc with h | h
      · exact noBackslash h
      · exact absurd h (by decide)
    rw [part]
    · rw [if_pos hc]
    · intro d r' h
      exact absurd h hne

/-- A character that ends nothing is taken as it stands, a backslash too, unless it would escape. -/
theorem part_plain {special : List Char} {c : Char} {rest : List Char} (plain : c ∉ special)
    (one_line : c ≠ '\n') (no_escape : c = '\\' → ∀ d ∈ rest.head?, d ∉ special) :
    part special (c :: rest) = Prod.map (c :: ·) id (part special rest) := by
  cases rest with
  | nil =>
    rw [part]
    · rw [if_neg (by simp [plain, one_line])]
    · intro d r h
      simp
  | cons d r =>
    by_cases hc : c = '\\'
    · subst hc
      rw [part, if_neg (no_escape rfl d rfl)]
    · rw [part]
      · rw [if_neg (by simp [plain, one_line])]
      · intro d r h
        exact absurd h hc

theorem escaped_cons (special : List Char) (c : Char) (cs : List Char) :
    escaped special (c :: cs) =
      (if c ∈ special then ['\\', c] else [c]) ++ escaped special cs :=
  rfl

theorem part_escaped {special cs rest : List Char} (noBackslash : '\\' ∉ special)
    (text : Unquoted cs) (ends : Ends special rest) :
    part special (escaped special cs ++ rest) = (cs, rest) := by
  induction cs with
  | nil => exact part_ends noBackslash ends
  | cons c cs ih =>
    have tail := ih text.tail
    rw [escaped_cons]
    by_cases hc : c ∈ special
    · simp only [if_pos hc, List.cons_append, List.nil_append]
      rw [part, if_pos hc, tail]
      rfl
    · simp only [if_neg hc, List.cons_append, List.nil_append]
      rw [part_plain hc, tail]
      · rfl
      · rintro rfl
        exact text.one_line List.mem_cons_self
      · rintro rfl d hd
        -- a backslash is not the last character, and the next one is escaped where special
        cases cs with
        | nil => exact absurd rfl text.no_escape
        | cons e es =>
          rw [escaped_cons] at hd
          by_cases he : e ∈ special
          · simp only [if_pos he, List.cons_append, List.head?_cons, Option.mem_def,
              Option.some.injEq] at hd
            exact hd ▸ noBackslash
          · simp only [if_neg he, List.cons_append, List.head?_cons, Option.mem_def,
              Option.some.injEq] at hd
            exact hd ▸ he

theorem quoted?_escaped (cs rest : List Char) :
    quoted? (escaped quotedSpecial cs ++ '"' :: rest) = some (cs, rest) := by
  induction cs with
  | nil => rfl
  | cons c cs ih =>
    rw [escaped_cons]
    by_cases hc : c ∈ quotedSpecial
    · simp only [if_pos hc, List.cons_append, List.nil_append]
      rw [quoted?, if_pos hc, ih]
      rfl
    · simp only [if_neg hc, List.cons_append, List.nil_append]
      rw [quoted?, ih]
      · rfl
      · rintro d r rfl
        exact absurd (by decide) hc
      · rintro rfl
        exact absurd (by decide) hc

/-! ## Values -/

/-- What follows a value begins with a character that no bare value holds. -/
def EndsBare (rest : List Char) : Prop := ∀ c ∈ rest.head?, isBare c = false

theorem isBare_of_isDigit {c : Char} (digit : c.isDigit = true) : isBare c = true := by
  unfold isBare
  have h1 : c ≠ ',' := by rintro rfl; exact absurd digit (by decide)
  have h2 : c ≠ ' ' := by rintro rfl; exact absurd digit (by decide)
  have h3 : c ≠ '\n' := by rintro rfl; exact absurd digit (by decide)
  simp [h1, h2, h3]

/-- A bare text is read up to what follows it. -/
theorem value?_bare {cs rest : List Char} (bare : ∀ c ∈ cs, isBare c = true)
    (unquoted : cs.head? ≠ some '"') (some_char : cs ≠ []) (ends : EndsBare rest) :
    value? (cs ++ rest) = (bare? cs).map (·, rest) := by
  have stop : rest.takeWhile isBare = [] ∧ rest.dropWhile isBare = rest := by
    cases rest with
    | nil => exact ⟨rfl, rfl⟩
    | cons c r => simp [ends c rfl]
  have front : (cs ++ rest).takeWhile isBare = cs := by
    rw [List.takeWhile_append_of_pos bare, stop.1, List.append_nil]
  have back : (cs ++ rest).dropWhile isBare = rest := by
    rw [List.dropWhile_append_of_pos bare, stop.2]
  rw [value?, front, back]
  obtain ⟨c, r, rfl⟩ := List.exists_cons_of_ne_nil some_char
  intro r' h
  rw [List.cons_append] at h
  exact unquoted (congrArg some (List.cons.inj h).1)

/-- The digits of an integer with its sign. -/
theorem toList_toString (n : Int) : (toString n).toList =
    if n < 0 then '-' :: natText n.natAbs else natText n.natAbs := by
  cases n with
  | ofNat m =>
    have : ¬ Int.ofNat m < 0 := by simp
    rw [if_neg this]
    exact Nat.toList_repr
  | negSucc m =>
    rw [if_pos (Int.negSucc_lt_zero m)]
    change ("-" ++ (m + 1).repr).toList = '-' :: natText (m + 1)
    rw [String.toList_append, Nat.toList_repr]
    rfl

theorem integer?_toString (n : Int) : integer? (toString n).toList = some n := by
  have all : (natText n.natAbs).all Char.isDigit = true :=
    List.all_eq_true.mpr (allDigits_natText _)
  have some_digit := natText_ne_nil n.natAbs
  have read := digitsValue_natText n.natAbs
  rw [toList_toString]
  by_cases hn : n < 0
  · rw [if_pos hn]
    simp [integer?, splitSign, all, some_digit, read, abs_of_neg hn]
  · have sign : splitSign (natText n.natAbs) = (false, natText n.natAbs) := by
      obtain ⟨d, r, h⟩ := List.exists_cons_of_ne_nil some_digit
      rw [h]
      exact splitSign_of_digit (allDigits_natText n.natAbs d (h ▸ List.mem_cons_self)) r
    rw [if_neg hn]
    simp [integer?, sign, all, some_digit, read, abs_of_nonneg (not_lt.mp hn)]

/-- The characters of a number: digits, a sign and a point. -/
def IsNumeric (c : Char) : Prop := c.isDigit = true ∨ c = '-' ∨ c = '.'

theorem IsNumeric.isBare {c : Char} (h : IsNumeric c) : isBare c = true := by
  rcases h with h | rfl | rfl
  · exact isBare_of_isDigit h
  · decide
  · decide

theorem IsNumeric.ne {c d : Char} (h : IsNumeric c) (digit : d.isDigit = false)
    (sign : d ≠ '-') (point : d ≠ '.') : c ≠ d := by
  rintro rfl
  rcases h with h | h | h
  · rw [digit] at h
    exact absurd h (by decide)
  · exact sign h
  · exact point h

theorem isNumeric_of_mem_toString {n : Int} {c : Char} (h : c ∈ (toString n).toList) :
    IsNumeric c := by
  rw [toList_toString] at h
  split at h
  · rcases List.mem_cons.mp h with h | h
    · exact Or.inr (Or.inl h)
    · exact Or.inl (allDigits_natText _ c h)
  · exact Or.inl (allDigits_natText _ c h)

theorem isNumeric_of_mem_text {v : Double} (finite : v.isFinite = true) {c : Char}
    (h : c ∈ v.text.toList) : IsNumeric c := by
  obtain ⟨whole, fraction, text, -, digits, digits', -⟩ := text_parts finite
  rw [text, positionalText] at h
  rcases List.mem_append.mp h with h | h
  · split at h
    · exact Or.inr (Or.inl (List.mem_singleton.mp h))
    · exact absurd h List.not_mem_nil
  · rcases List.mem_append.mp h with h | h
    · exact Or.inl (digits c h)
    · split at h
      · exact absurd h List.not_mem_nil
      · rcases List.mem_cons.mp h with h | h
        · exact Or.inr (Or.inr h)
        · exact Or.inl (digits' c h)

theorem text_ne_nil {v : Double} (finite : v.isFinite = true) : v.text.toList ≠ [] := by
  obtain ⟨whole, fraction, text, some_digit, -⟩ := text_parts finite
  rw [text, positionalText]
  simp [some_digit]

/-- A field value that the store can hold. -/
def Storable : FieldValue → Prop
  | .float v => v.isFinite = true
  | _ => True

theorem bare?_integer (n : Int) :
    bare? ((toString n).toList ++ ['i']) = some (.integer n) := by
  rw [bare?, if_pos List.getLast?_concat, List.dropLast_concat, integer?_toString]
  rfl

theorem bare?_float {v : Double} (finite : v.isFinite = true) :
    bare? v.text.toList = some (.float v) := by
  have numeric : ∀ c ∈ v.text.toList, IsNumeric c := fun c => isNumeric_of_mem_text finite
  have no_i : v.text.toList.getLast? ≠ some 'i' := by
    intro h
    exact (numeric 'i' (List.mem_of_getLast? h)).ne (by decide) (by decide) (by decide) rfl
  have not_true : v.text.toList ≠ "true".toList := by
    intro h
    exact (numeric 't' (h ▸ by decide)).ne (by decide) (by decide) (by decide) rfl
  have not_false : v.text.toList ≠ "false".toList := by
    intro h
    exact (numeric 'f' (h ▸ by decide)).ne (by decide) (by decide) (by decide) rfl
  rw [bare?, if_neg no_i, if_neg not_true, if_neg not_false, String.ofList_toList,
    Double.ofText?_text finite]
  rfl

/-- A value that is no string is written bare. -/
theorem bare_fieldValue {v : FieldValue} (storable : Storable v) (no_string : ∀ s, v ≠ .string s) :
    (∀ c ∈ fieldValue v, isBare c = true) ∧ (fieldValue v).head? ≠ some '"' ∧
      fieldValue v ≠ [] := by
  cases v with
  | integer n =>
    refine ⟨fun c hc => ?_, fun h => ?_, List.concat_ne_nil _ _⟩
    · rcases List.mem_append.mp hc with h | h
      · exact (isNumeric_of_mem_toString h).isBare
      · rw [List.mem_singleton.mp h]
        decide
    · rcases List.mem_append.mp (List.mem_of_head? h) with h | h
      · exact (isNumeric_of_mem_toString h).ne (by decide) (by decide) (by decide) rfl
      · exact absurd (List.mem_singleton.mp h) (by decide)
  | float v =>
    refine ⟨fun c hc => (isNumeric_of_mem_text storable hc).isBare, fun h => ?_,
      text_ne_nil storable⟩
    exact (isNumeric_of_mem_text storable (List.mem_of_head? h)).ne (by decide) (by decide)
      (by decide) rfl
  | boolean b =>
    cases b with
    | false => exact ⟨List.all_eq_true.mp (by decide), by decide, by decide⟩
    | true => exact ⟨List.all_eq_true.mp (by decide), by decide, by decide⟩
  | string s => exact absurd rfl (no_string s)

/-- A value is read back with its kind, whatever ends it. -/
theorem value?_fieldValue {v : FieldValue} (storable : Storable v) {rest : List Char}
    (ends : EndsBare rest) : value? (fieldValue v ++ rest) = some (v, rest) := by
  by_cases text : ∃ s, v = .string s
  · obtain ⟨s, rfl⟩ := text
    have written : fieldValue (.string s) ++ rest =
        '"' :: (escaped quotedSpecial s.toList ++ '"' :: rest) := by
      simp [fieldValue]
    rw [written, value?, quoted?_escaped]
    simp
  · obtain ⟨bare, unquoted, some_char⟩ := bare_fieldValue storable (not_exists.mp text)
    have told : bare? (fieldValue v) = some v := by
      cases v with
      | integer n => exact bare?_integer n
      | float v => exact bare?_float storable
      | boolean b => cases b <;> rfl
      | string s => exact absurd ⟨s, rfl⟩ text
    rw [value?_bare bare unquoted some_char ends, told]
    rfl

end PointRelay.Line
