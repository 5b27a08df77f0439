import PointRelay.Proofs.Decimal.Digits
import PointRelay.Proofs.Json.Strings

/-!
# JSON values read back

The indented text of a value is read back to it. Blanks between tokens are skipped, so the
indentation does not matter. The reader's fuel is compared with the text: each level of arrays and
objects and each of their items costs less than the characters it is written with.
-/

namespace PointRelay.Json

open Decimal

/-- Values whose text spells them out: numbers are integers, strings and names are texts. -/
inductive Plain : Json → Prop where
  | null : Plain .null
  | bool (b : Bool) : Plain (.bool b)
  | number (n : Int) : Plain (int n)
  | string (s : String) : Plain (str s)
  | array {items : List Json} (each : ∀ j ∈ items, Plain j) : Plain (.array items)
  | object {members : List (String × Json)} (each : ∀ m ∈ members, Plain m.2) :
    Plain (obj members)

/-! ## Blanks -/

theorem skipSpace_blanks {blanks : List Char} (all : ∀ c ∈ blanks, isSpace c = true)
    (r : List Char) : skipSpace (blanks ++ r) = skipSpace r :=
  List.dropWhile_append_of_pos all

theorem skipSpace_of_dense {c : Char} (dense : isSpace c = false) (r : List Char) :
    skipSpace (c :: r) = c :: r := by
  rw [skipSpace, List.dropWhile_cons_of_neg (by simp [dense])]

theorem readValue_blanks {blanks : List Char} (all : ∀ c ∈ blanks, isSpace c = true) (fuel : Nat)
    (cs : List Char) : readValue fuel (blanks ++ cs) = readValue fuel cs := by
  cases fuel with
  | zero => rfl
  | succ fuel => rw [readValue, readValue, skipSpace_blanks all]

theorem newline_blanks (level : Nat) : ∀ c ∈ (newline level).toList, isSpace c = true := by
  intro c mem
  simp only [newline, String.toList_append, List.mem_append, String.toList_ofList] at mem
  rcases mem with mem | mem
  · rw [List.mem_singleton.mp mem]
    rfl
  · rw [List.eq_of_mem_replicate mem]
    rfl

/-! ## Numbers -/

/-- What follows a number does not continue it. -/
def EndsNumber (rest : List Char) : Prop :=
  ∀ c ∈ rest.head?, c.isDigit = false ∧ c ≠ '.' ∧ c ≠ 'e' ∧ c ≠ 'E'

theorem digits1?_natText (n : Nat) {rest : List Char} (ends : EndsNumber rest) :
    digits1? (natText n ++ rest) = some (natText n, rest) := by
  obtain ⟨front, back⟩ :=
    takeWhile_digits (allDigits_natText n) fun c first => (ends c first).1
  simp [digits1?, front, back, natText_ne_nil]

theorem readExponent_none {rest : List Char} (ends : EndsNumber rest) :
    readExponent rest = some (none, rest) := by
  cases rest with
  | nil => rfl
  | cons c r =>
    have other : ¬ (c = 'e' ∨ c = 'E') := by
      rintro (same | same)
      · exact (ends c rfl).2.2.1 same
      · exact (ends c rfl).2.2.2 same
    simp only [readExponent, if_neg other]

/-- The text of an integer is its sign and its digits. -/
theorem toList_ofInt (n : Int) : (Literal.ofInt n).text.toList =
    (if n < 0 then ['-'] else []) ++ natText n.natAbs := by
  by_cases negative : n < 0
  · simp [Literal.ofInt, Literal.text, negative]
  · simp [Literal.ofInt, Literal.text, negative]

theorem readNumber_ofInt (n : Int) {rest : List Char} (ends : EndsNumber rest) :
    readNumber ((Literal.ofInt n).text.toList ++ rest) = some (Literal.ofInt n, rest) := by
  have digits := digits1?_natText n.natAbs ends
  have no_zero := natText_no_needless_zero n.natAbs
  have exponent := readExponent_none ends
  have no_point : ∀ r, rest ≠ '.' :: r := by
    rintro r rfl
    exact (ends '.' rfl).2.1 rfl
  rw [toList_ofInt]
  by_cases negative : n < 0
  · simp [readNumber, Literal.ofInt, negative, digits, no_zero, exponent]
  · have unsigned : ∀ r, natText n.natAbs ++ rest ≠ '-' :: r := by
      intro r same
      obtain ⟨d, ds, text⟩ := List.exists_cons_of_ne_nil (natText_ne_nil n.natAbs)
      rw [text] at same
      have digit : d.isDigit = true := allDigits_natText _ d (text ▸ List.mem_cons_self)
      rw [(List.cons.inj same).1] at digit
      exact absurd digit (by decide)
    simp [readNumber, Literal.ofInt, negative, digits, no_zero, exponent]

/-! ## Values -/

/-- A text is read as a value by a reader with fuel for all of it. -/
def ReadsBack (text : List Char) (j : Json) : Prop :=
  ∀ (fuel : Nat) (rest : List Char), EndsNumber rest → 2 * text.length + 1 ≤ fuel →
    readValue fuel (text ++ rest) = some (j, rest)

/-- A character that an integer may begin with. -/
def BeginsNumber (c : Char) : Prop := c = '-' ∨ c.isDigit = true

theorem BeginsNumber.ne {c d : Char} (begins : BeginsNumber c) (sign : d ≠ '-')
    (digit : d.isDigit = false) : c ≠ d := by
  rintro rfl
  rcases begins with same | same
  · exact sign same
  · rw [digit] at same
    cases same

theorem BeginsNumber.dense {c : Char} (begins : BeginsNumber c) : isSpace c = false := by
  simp only [isSpace, Bool.or_eq_false_iff, decide_eq_false_iff_not]
  exact ⟨⟨⟨begins.ne (by decide) rfl, begins.ne (by decide) rfl⟩, begins.ne (by decide) rfl⟩,
    begins.ne (by decide) rfl⟩

theorem ofInt_first (n : Int) :
    ∃ c r, (Literal.ofInt n).text.toList = c :: r ∧ BeginsNumber c := by
  rw [toList_ofInt]
  by_cases negative : n < 0
  · rw [if_pos negative]
    exact ⟨'-', _, rfl, .inl rfl⟩
  · rw [if_neg negative]
    obtain ⟨d, ds, digits⟩ := List.exists_cons_of_ne_nil (natText_ne_nil n.natAbs)
    exact ⟨d, ds, digits, .inr (allDigits_natText _ d (digits ▸ List.mem_cons_self))⟩

theorem readsBack_number (n : Int) : ReadsBack (Literal.ofInt n).text.toList (int n) := by
  intro fuel rest ends enough
  obtain ⟨fuel, rfl⟩ := Nat.exists_eq_add_of_le' (Nat.le_of_add_left_le enough)
  have number := readNumber_ofInt n ends
  obtain ⟨c, r, text, first⟩ := ofInt_first n
  rw [text, List.cons_append] at number ⊢
  rw [readValue, skipSpace_of_dense first.dense]
  split
  · rename_i same
    exact absurd (List.cons.inj same).1 (first.ne (by decide) rfl)
  · rename_i same
    exact absurd (List.cons.inj same).1 (first.ne (by decide) rfl)
  · rename_i same
    exact absurd (List.cons.inj same).1 (first.ne (by decide) rfl)
  · rename_i same
    exact absurd (List.cons.inj same).1 (first.ne (by decide) rfl)
  · rename_i same
    exact absurd (List.cons.inj same).1 (first.ne (by decide) rfl)
  · rename_i same
    exact absurd (List.cons.inj same).1 (first.ne (by decide) rfl)
  · rw [number]
    rfl

theorem readsBack_string (s : String) : ReadsBack (quoted s).toList (str s) := by
  intro fuel rest ends enough
  obtain ⟨fuel, rfl⟩ := Nat.exists_eq_add_of_le' (Nat.le_of_add_left_le enough)
  rw [toList_quoted, readValue, skipSpace_of_dense rfl]
  simp only [readString_escaped]
  rfl

/-! ## Arrays -/

/-- The texts behind the first one, each behind a comma and a line break. -/
def laterTexts (level : Nat) (texts : List (List Char)) : List Char :=
  texts.flatMap fun t => ',' :: ((newline level).toList ++ t)

theorem endsNumber_newline (level : Nat) (r : List Char) :
    EndsNumber ((newline level).toList ++ r) := by
  intro c first
  have head : ((newline level).toList ++ r).head? = some '\n' := by simp [newline]
  obtain rfl := Option.some.inj (head.symm.trans first)
  decide

theorem endsNumber_comma (r : List Char) : EndsNumber (',' :: r) := by
  rintro c ⟨⟩
  decide

theorem readItems_blanks {blanks : List Char} (all : ∀ c ∈ blanks, isSpace c = true) (fuel : Nat)
    (cs : List Char) (acc : List Json) :
    readItems fuel (blanks ++ cs) acc = readItems fuel cs acc := by
  cases fuel with
  | zero => rfl
  | succ fuel => rw [readItems, readItems, readValue_blanks all]

/-- Items are taken one by one; each ends at the comma or line break behind it. -/
theorem readItems_texts (level : Nat) {j : Json} {later : List Json}
    (each : ∀ i ∈ j :: later, ReadsBack (i.pretty (level + 1)).toList i) (acc : List Json)
    {fuel : Nat}
    (enough : 2 * ((j.pretty (level + 1)).toList ++
      laterTexts (level + 1) (later.map fun i => (i.pretty (level + 1)).toList)).length + 2 ≤ fuel)
    (rest : List Char) :
    readItems fuel ((j.pretty (level + 1)).toList ++
        (laterTexts (level + 1) (later.map fun i => (i.pretty (level + 1)).toList) ++
          ((newline level).toList ++ ']' :: rest))) acc =
      some (.array (acc.reverse ++ j :: later), rest) := by
  induction later generalizing j acc fuel with
  | nil =>
    obtain ⟨fuel, rfl⟩ := Nat.exists_eq_add_of_le' (Nat.le_of_add_left_le enough)
    simp only [laterTexts, List.map_nil, List.flatMap_nil, List.append_nil] at enough
    have value := each j List.mem_cons_self (fuel + 1) _
      (endsNumber_newline level (']' :: rest)) (by omega)
    have closed : skipSpace ((newline level).toList ++ ']' :: rest) = ']' :: rest := by
      rw [skipSpace_blanks (newline_blanks level), skipSpace_of_dense rfl]
    simp only [laterTexts, List.map_nil, List.flatMap_nil, List.nil_append]
    rw [readItems, value]
    simp only [Option.bind_eq_bind, Option.bind_some, closed, List.reverse_cons]
  | cons i later ih =>
    obtain ⟨fuel, rfl⟩ := Nat.exists_eq_add_of_le' (Nat.le_of_add_left_le enough)
    have shape : laterTexts (level + 1) ((i :: later).map fun i => (i.pretty (level + 1)).toList) =
        ',' :: ((newline (level + 1)).toList ++ ((i.pretty (level + 1)).toList ++
          laterTexts (level + 1) (later.map fun i => (i.pretty (level + 1)).toList))) := by
      simp [laterTexts]
    rw [shape] at enough ⊢
    simp only [List.length_append, List.length_cons] at enough
    simp only [List.cons_append, List.append_assoc]
    have value : ∀ r, readValue (fuel + 1) ((j.pretty (level + 1)).toList ++ ',' :: r) =
        some (j, ',' :: r) :=
      fun r => each j List.mem_cons_self (fuel + 1) _ (endsNumber_comma r) (by omega)
    have fuel_left : 2 * ((i.pretty (level + 1)).toList ++ laterTexts (level + 1)
        (later.map fun i => (i.pretty (level + 1)).toList)).length + 2 ≤ fuel + 1 := by
      rw [List.length_append]
      omega
    have others := ih (fun k mem => each k (List.mem_cons_of_mem j mem)) (j :: acc) fuel_left
    rw [readItems, value]
    simp only [Option.bind_eq_bind, Option.bind_some, skipSpace_of_dense (show isSpace ',' = false
      from rfl), readItems_blanks (newline_blanks (level + 1)), others, List.reverse_cons,
      List.append_assoc, List.singleton_append]

/-! ## Objects -/

/-- The text of a member. -/
def memberText (level : Nat) (m : String × Json) : List Char :=
  (quoted m.1).toList ++ ':' :: ' ' :: (m.2.pretty level).toList

theorem readMembers_blanks {blanks : List Char} (all : ∀ c ∈ blanks, isSpace c = true) (fuel : Nat)
    (cs : List Char) (acc : List (Option String × Json)) :
    readMembers fuel (blanks ++ cs) acc = readMembers fuel cs acc := by
  cases fuel with
  | zero => rfl
  | succ fuel => rw [readMembers, readMembers, skipSpace_blanks all]

/-- A member is taken, and what stands behind it decides how the reader goes on. -/
theorem readMembers_member (level : Nat) {m : String × Json}
    (back : ReadsBack (m.2.pretty level).toList m.2) (acc : List (Option String × Json))
    {fuel : Nat} (enough : 2 * (memberText level m).length ≤ fuel) {stop : List Char}
    (ends : EndsNumber stop) (r : List Char) :
    (skipSpace stop = ',' :: r → readMembers (fuel + 1) (memberText level m ++ stop) acc =
      readMembers fuel r ((some m.1, m.2) :: acc)) ∧
    (skipSpace stop = '\x7d' :: r → readMembers (fuel + 1) (memberText level m ++ stop) acc =
      some (.object ((some m.1, m.2) :: acc).reverse, r)) := by
  have shape : memberText level m ++ stop = '"' :: (m.1.toList.flatMap escapeChar ++
      '"' :: ':' :: ([' '] ++ ((m.2.pretty level).toList ++ stop))) := by
    rw [memberText, List.append_assoc, toList_quoted]
    simp
  have value := back fuel stop ends (by
    simp only [memberText, List.length_append, List.length_cons] at enough
    omega)
  have blank : ∀ c ∈ [' '], isSpace c = true := List.forall_mem_singleton.mpr rfl
  have colon : ∀ r, skipSpace (':' :: r) = ':' :: r := skipSpace_of_dense rfl
  rw [shape, readMembers, skipSpace_of_dense rfl]
  constructor
  · intro next
    simp only [readString_escaped, Option.bind_eq_bind, Option.bind_some, colon,
      readValue_blanks blank, value, next]
  · intro last
    simp only [readString_escaped, Option.bind_eq_bind, Option.bind_some, colon,
      readValue_blanks blank, value, last]

/-- Members are taken one by one; each ends at the comma or line break behind it. -/
theorem readMembers_texts (level : Nat) {m : String × Json} {later : List (String × Json)}
    (each : ∀ i ∈ m :: later, ReadsBack (i.2.pretty (level + 1)).toList i.2)
    (acc : List (Option String × Json)) {fuel : Nat}
    (enough : 2 * (memberText (level + 1) m ++
      laterTexts (level + 1) (later.map (memberText (level + 1)))).length + 2 ≤ fuel)
    (rest : List Char) :
    readMembers fuel (memberText (level + 1) m ++
        (laterTexts (level + 1) (later.map (memberText (level + 1))) ++
          ((newline level).toList ++ '\x7d' :: rest))) acc =
      some (.object (acc.reverse ++ (m :: later).map fun i => (some i.1, i.2)), rest) := by
  induction later generalizing m acc fuel with
  | nil =>
    obtain ⟨fuel, rfl⟩ := Nat.exists_eq_add_of_le' (Nat.le_of_add_left_le enough)
    simp only [laterTexts, List.map_nil, List.flatMap_nil, List.append_nil] at enough
    have closed : skipSpace ((newline level).toList ++ '\x7d' :: rest) = '\x7d' :: rest := by
      rw [skipSpace_blanks (newline_blanks level), skipSpace_of_dense rfl]
    have member := readMembers_member (level + 1) (each m List.mem_cons_self) acc
      (show _ ≤ fuel + 1 by omega) (endsNumber_newline level ('\x7d' :: rest)) rest
    simp only [laterTexts, List.map_nil, List.flatMap_nil, List.nil_append]
    rw [member.2 closed]
    simp
  | cons i later ih =>
    obtain ⟨fuel, rfl⟩ := Nat.exists_eq_add_of_le' (Nat.le_of_add_left_le enough)
    have shape : laterTexts (level + 1) ((i :: later).map (memberText (level + 1))) =
        ',' :: ((newline (level + 1)).toList ++ (memberText (level + 1) i ++
          laterTexts (level + 1) (later.map (memberText (level + 1))))) := by
      simp [laterTexts]
    rw [shape] at enough ⊢
    simp only [List.length_append, List.length_cons] at enough
    simp only [List.cons_append, List.append_assoc]
    have fuel_left : 2 * (memberText (level + 1) i ++
        laterTexts (level + 1) (later.map (memberText (level + 1)))).length + 2 ≤ fuel + 1 := by
      rw [List.length_append]
      omega
    have others := ih (fun k mem => each k (List.mem_cons_of_mem m mem)) ((some m.1, m.2) :: acc)
      fuel_left
    have member := fun r => readMembers_member (level + 1) (each m List.mem_cons_self) acc
      (show _ ≤ fuel + 1 by omega) (endsNumber_comma r) r
    rw [(member _).1 (skipSpace_of_dense rfl _), readMembers_blanks (newline_blanks (level + 1)),
      others]
    simp

/-! ## All values -/

theorem itemTexts_eq (level : Nat) (items : List Json) :
    pretty.itemTexts level items = items.map (pretty level) := by
  induction items with
  | nil => rfl
  | cons j items ih => rw [pretty.itemTexts, ih, List.map_cons]

theorem memberTexts_eq (level : Nat) (members : List (String × Json)) :
    pretty.memberTexts level (members.map fun m => (some m.1, m.2)) =
      members.map fun m => quoted m.1 ++ ": " ++ pretty level m.2 := by
  induction members with
  | nil => rfl
  | cons m members ih => rw [List.map_cons, pretty.memberTexts, ih, List.map_cons]; rfl

theorem toList_block (level : Nat) (opening closing first : String) (later : List String) :
    (block level opening closing (first :: later)).toList =
      opening.toList ++ ((newline (level + 1)).toList ++ (first.toList ++
        (laterTexts (level + 1) (later.map String.toList) ++
          ((newline level).toList ++ closing.toList)))) := by
  have texts : later.flatMap (fun s => ",".toList ++ ((newline (level + 1)).toList ++ s.toList)) =
      laterTexts (level + 1) (later.map String.toList) := by
    simp [laterTexts, List.flatMap_map]
  simp only [block, List.isEmpty_cons, Bool.false_eq_true, if_false, String.toList_append,
    Text.toList_intercalate_cons, texts, List.append_assoc]

theorem pretty_array (level : Nat) (j : Json) (later : List Json) (rest : List Char) :
    (pretty level (.array (j :: later))).toList ++ rest =
      '[' :: ((newline (level + 1)).toList ++ ((j.pretty (level + 1)).toList ++
        (laterTexts (level + 1) (later.map fun i => (i.pretty (level + 1)).toList) ++
          ((newline level).toList ++ ']' :: rest)))) := by
  rw [pretty, itemTexts_eq, List.map_cons, toList_block, List.map_map]
  simp [Function.comp_def]

theorem pretty_object (level : Nat) (m : String × Json) (later : List (String × Json))
    (rest : List Char) :
    (pretty level (obj (m :: later))).toList ++ rest =
      '\x7b' :: ((newline (level + 1)).toList ++ (memberText (level + 1) m ++
        (laterTexts (level + 1) (later.map (memberText (level + 1))) ++
          ((newline level).toList ++ '\x7d' :: rest)))) := by
  have members : ∀ i : String × Json,
      (quoted i.1 ++ ": " ++ pretty (level + 1) i.2).toList = memberText (level + 1) i := by
    intro i
    simp [memberText]
  rw [obj, pretty, memberTexts_eq, List.map_cons, toList_block, List.map_map]
  simp [Function.comp_def, members]

theorem pretty_nil (level : Nat) : pretty level (.array []) = "[]" := by
  rw [pretty, pretty.itemTexts]
  rfl

theorem pretty_empty (level : Nat) : pretty level (obj []) = "\x7b\x7d" := by
  rw [obj, pretty, List.map_nil, pretty.memberTexts]
  rfl

/-- What a value's text begins with is no blank and closes nothing. -/
theorem pretty_first {j : Json} (plain : Plain j) (level : Nat) :
    ∃ c r, (j.pretty level).toList = c :: r ∧ isSpace c = false ∧ c ≠ ']' := by
  cases plain with
  | null =>
    rw [pretty]
    exact ⟨'n', _, rfl, rfl, by decide⟩
  | bool b =>
    rw [pretty]
    cases b with
    | true => exact ⟨'t', _, rfl, rfl, by decide⟩
    | false => exact ⟨'f', _, rfl, rfl, by decide⟩
  | number n =>
    obtain ⟨c, r, text, first⟩ := ofInt_first n
    rw [int, pretty]
    exact ⟨c, r, text, first.dense, first.ne (by decide) rfl⟩
  | string s =>
    have text := toList_quoted s []
    rw [List.append_nil] at text
    rw [str, pretty]
    exact ⟨'"', _, text, rfl, by decide⟩
  | @array items _ =>
    cases items with
    | nil =>
      rw [pretty_nil]
      exact ⟨'[', _, rfl, rfl, by decide⟩
    | cons j later =>
      have text := pretty_array level j later []
      rw [List.append_nil] at text
      exact ⟨'[', _, text, rfl, by decide⟩
  | @object members _ =>
    cases members with
    | nil =>
      rw [pretty_empty]
      exact ⟨'\x7b', _, rfl, rfl, by decide⟩
    | cons m later =>
      have text := pretty_object level m later []
      rw [List.append_nil] at text
      exact ⟨'\x7b', _, text, rfl, by decide⟩

/-- The texts of the values that are one word. -/
theorem readsBack_word {text : String} {j : Json}
    (read : ∀ fuel rest, readValue (fuel + 1) (text.toList ++ rest) = some (j, rest)) :
    ReadsBack text.toList j := by
  intro fuel rest ends enough
  obtain ⟨fuel, rfl⟩ := Nat.exists_eq_add_of_le' (Nat.le_of_add_left_le enough)
  exact read fuel rest

theorem readsBack_array {level : Nat} {j : Json} {later : List Json} (plain : Plain j)
    (each : ∀ i ∈ j :: later, ReadsBack (i.pretty (level + 1)).toList i) :
    ReadsBack (pretty level (.array (j :: later))).toList (.array (j :: later)) := by
  intro fuel rest ends enough
  have long := congrArg List.length (pretty_array level j later [])
  rw [List.append_nil] at long
  simp only [List.length_cons, List.length_append] at long
  obtain ⟨fuel, rfl⟩ := Nat.exists_eq_add_of_le' (Nat.le_of_add_left_le enough)
  have fuel_left : 2 * ((j.pretty (level + 1)).toList ++ laterTexts (level + 1)
      (later.map fun i => (i.pretty (level + 1)).toList)).length + 2 ≤ fuel := by
    rw [List.length_append]
    omega
  have items := readItems_texts level each [] fuel_left rest
  obtain ⟨c, r, text, dense, opened⟩ := pretty_first plain (level + 1)
  rw [pretty_array, readValue, skipSpace_of_dense rfl]
  rw [text] at items ⊢
  simp only [skipSpace_blanks (newline_blanks (level + 1)), List.cons_append,
    skipSpace_of_dense dense]
  split
  · rename_i same
    exact absurd (List.cons.inj same).1 opened
  · exact items

theorem readsBack_object {level : Nat} {m : String × Json} {later : List (String × Json)}
    (each : ∀ i ∈ m :: later, ReadsBack (i.2.pretty (level + 1)).toList i.2) :
    ReadsBack (pretty level (obj (m :: later))).toList (obj (m :: later)) := by
  intro fuel rest ends enough
  have long := congrArg List.length (pretty_object level m later [])
  rw [List.append_nil] at long
  simp only [List.length_cons, List.length_append] at long
  obtain ⟨fuel, rfl⟩ := Nat.exists_eq_add_of_le' (Nat.le_of_add_left_le enough)
  have fuel_left : 2 * (memberText (level + 1) m ++
      laterTexts (level + 1) (later.map (memberText (level + 1)))).length + 2 ≤ fuel := by
    rw [List.length_append]
    omega
  have members := readMembers_texts level each [] fuel_left rest
  have opened : ∃ r, memberText (level + 1) m = '"' :: r := by
    rw [memberText, toList_quoted]
    exact ⟨_, rfl⟩
  obtain ⟨r, text⟩ := opened
  rw [pretty_object, readValue, skipSpace_of_dense rfl]
  rw [text] at members ⊢
  simp only [skipSpace_blanks (newline_blanks (level + 1)), List.cons_append,
    skipSpace_of_dense (show isSpace '"' = false from rfl)]
  exact members

/-- The indented text of any plain value is read back to it. -/
theorem readsBack_pretty {j : Json} (plain : Plain j) (level : Nat) :
    ReadsBack (j.pretty level).toList j := by
  induction plain generalizing level with
  | null =>
    rw [pretty]
    exact readsBack_word fun _ _ => rfl
  | bool b =>
    rw [pretty]
    cases b with
    | true => exact readsBack_word fun _ _ => rfl
    | false => exact readsBack_word fun _ _ => rfl
  | number n =>
    rw [int, pretty]
    exact readsBack_number n
  | string s =>
    rw [str, pretty]
    exact readsBack_string s
  | @array items each ih =>
    cases items with
    | nil =>
      rw [pretty_nil]
      exact readsBack_word fun _ _ => rfl
    | cons j later =>
      exact readsBack_array (each j List.mem_cons_self) fun i mem => ih i mem (level + 1)
  | @object members each ih =>
    cases members with
    | nil =>
      rw [pretty_empty]
      exact readsBack_word fun _ _ => rfl
    | cons m later => exact readsBack_object fun i mem => ih i mem (level + 1)

theorem read?_pretty {j : Json} (plain : Plain j) : read? (j.pretty 0) = some j := by
  have ends : EndsNumber [] := nofun
  have value := readsBack_pretty plain 0 _ [] ends (Nat.le_refl _)
  rw [List.append_nil] at value
  rw [read?, value]
  rfl

end PointRelay.Json
