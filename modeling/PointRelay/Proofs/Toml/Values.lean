import PointRelay.Proofs.Decimal.Digits
import PointRelay.Proofs.Toml.Strings

/-!
# Values read back

The values of settings are texts, natural numbers and lists of texts. Each is read back from its
text with a line break behind it. A list has one item a line when there are two or more: what is
left before each item is a line break and four blanks, and what the reader has taken so far grows
by that item.
-/

namespace PointRelay.Toml

open Decimal

/-! ## Numbers -/

theorem isScalarChar_of_isDigit {c : Char} (digit : c.isDigit = true) : isScalarChar c = true := by
  simp [isScalarChar, Char.isAlphanum, digit]

theorem separated?_go_digits {ds : List Char} (digits : AllDigits ds) (acc : List Char) :
    separated?.go Char.isDigit acc ds = some (acc.reverse ++ ds) := by
  induction ds generalizing acc with
  | nil => simp [separated?.go]
  | cons d ds ih =>
    have digit : d.isDigit = true := digits d List.mem_cons_self
    have later := ih (fun c hc => digits c (List.mem_cons_of_mem d hc)) (d :: acc)
    have other : d ≠ '_' := by
      rintro rfl
      exact absurd digit (by decide)
    rw [separated?.go]
    · rw [if_pos digit, later]
      simp
    · intro c r same
      exact absurd same other

theorem plainDigits?_natText (n : Nat) : plainDigits? (natText n) = some (natText n) := by
  have digits := allDigits_natText n
  cases text : natText n with
  | nil => exact absurd text (natText_ne_nil n)
  | cons d ds =>
    rw [text] at digits
    have digit : d.isDigit = true := digits d List.mem_cons_self
    have all := separated?_go_digits (fun c hc => digits c (List.mem_cons_of_mem d hc)) [d]
    have dense : separated? Char.isDigit (d :: ds) = some (d :: ds) := by
      rw [separated?, if_pos digit]
      exact all
    have no_zero := natText_no_needless_zero n
    rw [text] at no_zero
    simp only [plainDigits?, dense, Option.bind_eq_bind, Option.bind_some, if_neg no_zero]

theorem integer?_natText (n : Nat) : integer? (natText n) = some (n : Int) := by
  have digits := allDigits_natText n
  cases text : natText n with
  | nil => exact absurd text (natText_ne_nil n)
  | cons d ds =>
    rw [text] at digits
    have digit : d.isDigit = true := digits d List.mem_cons_self
    have second : ∀ {c : Char} {r : List Char}, c.isDigit = false → d :: ds ≠ '0' :: c :: r := by
      intro c r letter same
      have := digits c (same ▸ List.mem_cons_of_mem _ List.mem_cons_self)
      rw [letter] at this
      cases this
    have plain := plainDigits?_natText n
    have value := digitsValue_natText n
    rw [text] at plain value
    unfold integer?
    split
    · rename_i same
      exact absurd same (second (by decide))
    · rename_i same
      exact absurd same (second (by decide))
    · rename_i same
      exact absurd same (second (by decide))
    · simp [splitSign_of_digit digit, plain, value]

/-- A number that 64 bits hold is far below the bound of the reader. -/
theorem scalar?_natText {n : Nat} (small : n < 0x10000000000000000) :
    scalar? (natText n) = some (.integer n) := by
  have digits := allDigits_natText n
  have bounded : boundedInteger? (natText n) = some (.integer n) := by
    have range : -0x80000000000000000000000000000000 ≤ (n : Int) ∧
        (n : Int) < 0x100000000000000000000000000000000 := by omega
    rw [boundedInteger?, integer?_natText, Option.bind_eq_bind, Option.bind_some, if_pos range]
  have word : ∀ {w : String}, (∃ c ∈ w.toList, c.isDigit = false) →
      String.ofList (natText n) ≠ w := by
    rintro w ⟨c, mem, letter⟩ rfl
    rw [String.toList_ofList] at mem
    rw [digits c mem] at letter
    cases letter
  unfold scalar?
  split
  · rename_i same
    exact absurd same (word ⟨'t', by decide, rfl⟩)
  · rename_i same
    exact absurd same (word ⟨'f', by decide, rfl⟩)
  · rw [bounded]

theorem splitScalar_natText (n : Nat) (rest : List Char) :
    splitScalar (natText n ++ '\n' :: rest) = (natText n, '\n' :: rest) := by
  have digits := allDigits_natText n
  have taken : (natText n ++ '\n' :: rest).takeWhile isScalarChar = natText n :=
    (Text.takeWhile_run (fun c mem => isScalarChar_of_isDigit (digits c mem))
      (by rintro c ⟨⟩; decide)).1
  unfold splitScalar
  simp only [taken, List.drop_left]
  split
  · rename_i same
    exact absurd (List.cons.inj same).1 (by decide)
  · rfl

theorem value?_natText {n : Nat} (small : n < 0x10000000000000000) (depth fuel : Nat)
    (rest : List Char) :
    value? depth (fuel + 1) (natText n ++ '\n' :: rest) = some (.integer n, '\n' :: rest) := by
  have split_off := splitScalar_natText n rest
  have digits := allDigits_natText n
  cases text : natText n with
  | nil => exact absurd text (natText_ne_nil n)
  | cons d ds =>
    have digit : d.isDigit = true := digits d (text ▸ List.mem_cons_self)
    have other : ∀ {c : Char}, c.isDigit = false → d ≠ c := by
      rintro c letter rfl
      rw [digit] at letter
      cases letter
    rw [text, List.cons_append] at split_off
    rw [List.cons_append]
    unfold value?
    split
    · rename_i same
      exact absurd (List.cons.inj same).1 (other rfl)
    · rename_i same
      exact absurd (List.cons.inj same).1 (other rfl)
    · rename_i same
      exact absurd (List.cons.inj same).1 (other rfl)
    · rename_i same
      exact absurd (List.cons.inj same).1 (other rfl)
    · rw [split_off, ← text]
      simp only [scalar?_natText small, Option.bind_eq_bind, Option.bind_some]

/-! ## Texts -/

/-- The first character of a string's text. -/
def IsQuote (c : Char) : Prop := c = '"' ∨ c = '\''

theorem stringText_quote (s : String) : ∃ q r, (stringText s).toList = q :: r ∧ IsQuote q := by
  unfold stringText
  simp only
  split
  · exact ⟨'"', _, toList_enclose _ _ _, .inl rfl⟩
  · exact ⟨'\'', _, toList_enclose _ _ _, .inr rfl⟩
  · exact ⟨'"', _, toList_enclose _ _ _, .inl rfl⟩
  · exact ⟨'\'', _, toList_enclose _ _ _, .inr rfl⟩
  · exact ⟨'"', _, toList_enclose _ _ _, .inl rfl⟩
  · exact ⟨'"', _, toList_enclose _ _ _, .inl rfl⟩

theorem value?_stringText (s : String) (depth fuel : Nat) {rest : List Char}
    (ends : EndsString rest) :
    value? depth (fuel + 1) ((stringText s).toList ++ rest) = some (.string s, rest) := by
  have read := string?_stringText s ends
  obtain ⟨q, r, text, rfl | rfl⟩ := stringText_quote s
  · rw [text, List.cons_append] at read ⊢
    rw [value?, read]
    rfl
  · rw [text, List.cons_append] at read ⊢
    rw [value?, read]
    rfl

/-! ## Lists of texts -/

/-- A character at which nothing is skipped. -/
structure Solid (c : Char) : Prop where
  dense : isBlank c = false
  comment : c ≠ '#'
  newline : c ≠ '\n'
  carriage : c ≠ '\r'

theorem IsQuote.solid {q : Char} (quote : IsQuote q) : Solid q := by
  rcases quote with rfl | rfl
  · exact ⟨rfl, by decide, by decide, by decide⟩
  · exact ⟨rfl, by decide, by decide, by decide⟩

theorem Solid.skipBlanks {c : Char} (solid : Solid c) (r : List Char) :
    skipBlanks (c :: r) = c :: r := by
  rw [Toml.skipBlanks, List.dropWhile_cons_of_neg (by simp [solid.dense])]

theorem Solid.skipComment {c : Char} (solid : Solid c) (r : List Char) :
    skipComment (c :: r) = some (c :: r) := by
  unfold Toml.skipComment
  split
  · rename_i same
    exact absurd (List.cons.inj same).1 solid.comment
  · rfl

theorem Solid.newline? {c : Char} (solid : Solid c) (r : List Char) :
    newline? (c :: r) = none := by
  unfold Toml.newline?
  split
  · rename_i same
    exact absurd (List.cons.inj same).1 solid.newline
  · rename_i same
    exact absurd (List.cons.inj same).1 solid.carriage
  · rfl

theorem Solid.skipLines {c : Char} (solid : Solid c) (r : List Char) (fuel : Nat) :
    skipLines (fuel + 1) (c :: r) = some (c :: r) := by
  rw [Toml.skipLines, solid.skipBlanks, solid.skipComment]
  simp only [Option.bind_eq_bind, Option.bind_some, solid.newline?]

/-- From the end of a line to an item on the next one. -/
theorem Solid.skipLines_indented {c : Char} (solid : Solid c) (r : List Char) {fuel : Nat}
    (enough : 2 ≤ fuel) :
    Toml.skipLines fuel ('\n' :: ("    ".toList ++ c :: r)) = some (c :: r) := by
  obtain ⟨fuel, rfl⟩ := Nat.exists_eq_add_of_le' enough
  exact solid.skipLines r fuel

/-- From the end of a line to what the next one begins with. -/
theorem Solid.skipLines_next {c : Char} (solid : Solid c) (r : List Char) {fuel : Nat}
    (enough : 2 ≤ fuel) : Toml.skipLines fuel ('\n' :: c :: r) = some (c :: r) := by
  obtain ⟨fuel, rfl⟩ := Nat.exists_eq_add_of_le' enough
  exact solid.skipLines r fuel

theorem bracket_solid : Solid ']' := ⟨rfl, by decide, by decide, by decide⟩

theorem comma_solid : Solid ',' := ⟨rfl, by decide, by decide, by decide⟩

/-- A reader of items takes the one that it finds, and what stands behind it decides how it goes
on. -/
theorem items?_string {s : String} {cs : List Char} {c : Char} {rest : List Char}
    (skipped : skipLines (cs.length + 1) cs = some ((stringText s).toList ++ c :: rest))
    (depth fuel : Nat) (acc : List Toml) :
    (c = ',' → items? depth (fuel + 2) acc cs = items? depth (fuel + 1) (.string s :: acc) rest) ∧
    (c = ']' →
      items? depth (fuel + 2) acc cs = some (.array (.string s :: acc).reverse, rest)) := by
  have value : EndsString (c :: rest) →
      value? depth (fuel + 1) ((stringText s).toList ++ c :: rest) = some (.string s, c :: rest) :=
    value?_stringText s depth fuel
  obtain ⟨q, r, text, quote⟩ := stringText_quote s
  rw [text, List.cons_append] at value skipped
  have item : q ≠ ']' := by
    rintro rfl
    rcases quote with same | same
    · exact absurd same (by decide)
    · exact absurd same (by decide)
  rw [items?, skipped]
  simp only [Option.bind_eq_bind, Option.bind_some]
  split
  · rename_i same
    exact absurd (List.cons.inj same).1 item
  · constructor
    · rintro rfl
      simp only [value ⟨by simp, by simp⟩, Option.bind_some, comma_solid.skipLines]
    · rintro rfl
      simp only [value ⟨by simp, by simp⟩, Option.bind_some, bracket_solid.skipLines]

/-- An item on a line of its own, up to the comma behind it. -/
def itemText (s : String) : List Char := "    ".toList ++ (stringText s).toList ++ [',', '\n']

/-- A line break is in front of the items, which each have one behind their comma. -/
theorem items?_lines (items : List String) (depth : Nat) {fuel : Nat}
    (enough : items.length + 2 ≤ fuel) (acc : List Toml) (rest : List Char) :
    items? depth fuel acc ('\n' :: (items.flatMap itemText ++ ']' :: rest)) =
      some (.array (acc.reverse ++ items.map .string), rest) := by
  induction items generalizing acc fuel with
  | nil =>
    obtain ⟨fuel, rfl⟩ := Nat.exists_eq_add_of_le' enough
    change items? depth (fuel + 1 + 1) acc ('\n' :: ']' :: rest) = _
    rw [items?, bracket_solid.skipLines_next _ (by simp)]
    simp
  | cons s items ih =>
    obtain ⟨fuel, rfl⟩ := Nat.exists_eq_add_of_le' enough
    have shape : '\n' :: ((s :: items).flatMap itemText ++ ']' :: rest) =
        '\n' :: ("    ".toList ++ ((stringText s).toList ++
          ',' :: '\n' :: (items.flatMap itemText ++ ']' :: rest))) := by
      simp [itemText]
    have skipped : ∀ r fuel, 2 ≤ fuel →
        skipLines fuel ('\n' :: ("    ".toList ++ ((stringText s).toList ++ r))) =
          some ((stringText s).toList ++ r) := by
      intro r fuel enough
      obtain ⟨q, t, text, quote⟩ := stringText_quote s
      rw [text]
      exact quote.solid.skipLines_indented (t ++ r) enough
    have fuel_left : items.length + 2 ≤ fuel + items.length + 2 := by omega
    have later := ih fuel_left (.string s :: acc)
    have count : fuel + ((s :: items).length + 2) = (fuel + items.length + 1) + 2 := by
      rw [List.length_cons]
      omega
    rw [shape, count, (items?_string (skipped _ _ (by simp)) depth _ acc).1 rfl, later]
    simp

theorem itemLines_texts (items : List String) :
    (String.join (valueText.itemLines (items.map .string))).toList = items.flatMap itemText := by
  induction items with
  | nil => rfl
  | cons s items ih =>
    rw [List.map_cons, valueText.itemLines, String.join_cons, String.toList_append, ih]
    simp [itemText, valueText]

/-- A list of one item is on one line, a longer one has a line for each item. -/
theorem valueText_texts (items : List String) :
    (valueText (.array (items.map .string))).toList =
      match items with
      | [] => ['[', ']']
      | [s] => '[' :: ((stringText s).toList ++ [']'])
      | items => '[' :: '\n' :: (items.flatMap itemText ++ [']']) := by
  match items with
  | [] => rfl
  | [s] => simp [valueText]
  | s :: t :: items =>
    have lines := itemLines_texts (s :: t :: items)
    rw [List.map_cons, List.map_cons] at lines ⊢
    rw [valueText]
    · simp only [← lines]
      simp
    · nofun
    · nofun

theorem length_le_valueText (items : List String) :
    items.length ≤ (valueText (.array (items.map .string))).toList.length := by
  rw [valueText_texts]
  match items with
  | [] => exact Nat.zero_le _
  | [s] => simp
  | s :: t :: items =>
    have each : ∀ l : List String, l.length ≤ (l.flatMap itemText).length := by
      intro l
      induction l with
      | nil => exact Nat.le_refl 0
      | cons u l ih =>
        rw [List.flatMap_cons, List.length_append, List.length_cons]
        have : 1 ≤ (itemText u).length := by simp [itemText]
        omega
    have := each (s :: t :: items)
    simp only [List.length_cons, List.length_append] at this ⊢
    omega

theorem value?_texts (items : List String) (depth : Nat) {fuel : Nat}
    (enough : items.length + 3 ≤ fuel) (rest : List Char) :
    value? (depth + 1) fuel ((valueText (.array (items.map .string))).toList ++ rest) =
      some (.array (items.map .string), rest) := by
  obtain ⟨fuel, rfl⟩ := Nat.exists_eq_add_of_le' enough
  have opened : ∀ r, value? (depth + 1) (fuel + (items.length + 3)) ('[' :: r) =
      items? depth (fuel + (items.length + 2)) [] r := fun _ => rfl
  rw [valueText_texts]
  match items, opened with
  | [], _ => rfl
  | [s], opened =>
    have skipped : ∀ r fuel,
        skipLines (fuel + 1) ((stringText s).toList ++ r) = some ((stringText s).toList ++ r) := by
      intro r fuel
      obtain ⟨q, t, text, quote⟩ := stringText_quote s
      rw [text]
      exact quote.solid.skipLines (t ++ r) fuel
    simp only [List.cons_append, List.append_assoc, opened]
    exact (items?_string (skipped _ _) depth (fuel + 1) []).2 rfl
  | s :: t :: items, opened =>
    simp only [List.cons_append, List.append_assoc, opened]
    exact items?_lines (s :: t :: items) depth (by simp) [] rest

/-! ## Settings -/

/-- A value of a setting. -/
inductive Setting : Toml → Prop where
  | text (s : String) : Setting (.string s)
  | number (n : Nat) (small : n < 0x10000000000000000) : Setting (.integer n)
  | texts (items : List String) : Setting (.array (items.map .string))

/-- A setting is read back from the rest of its line. -/
theorem Setting.value? {v : Toml} (setting : Setting v) (rest : List Char) (depth : Nat)
    {fuel : Nat} (enough : (v.valueText.toList ++ '\n' :: rest).length + 2 ≤ fuel) :
    Toml.value? (depth + 1) fuel (v.valueText.toList ++ '\n' :: rest) = some (v, '\n' :: rest) := by
  cases setting with
  | text s =>
    obtain ⟨fuel, rfl⟩ := Nat.exists_eq_add_of_le' enough
    simp only [valueText]
    exact value?_stringText s (depth + 1) _ ⟨by simp, by simp⟩
  | number n small =>
    obtain ⟨fuel, rfl⟩ := Nat.exists_eq_add_of_le' enough
    have digits : (toString (n : Int)).toList = natText n := Nat.toList_repr
    simp only [valueText, digits]
    exact value?_natText small (depth + 1) _ rest
  | texts items =>
    refine value?_texts items depth ?_ _
    have := length_le_valueText items
    simp only [List.length_append, List.length_cons] at enough
    omega

end PointRelay.Toml
