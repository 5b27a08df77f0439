import PointRelay.Toml.Reader
import PointRelay.Toml.Writer

/-!
# Strings read back

A string is written in one of five styles, chosen by what it holds. What a style leaves as it is
has to be harmless to the reader of that style: to a basic string quotes, backslashes and control
characters are not, to a literal one the other quotes and control characters are not, and a string
over several lines minds quotes only where three of them meet. The last style escapes what would do
harm.
-/

namespace PointRelay.Toml

/-- What has to be so for a string to be written as it is in a style. -/
def Style.Holds (s : List Char) : Style → Prop
  | .basic => '\n' ∉ s ∧ (∀ c ∈ s, needsEscape c = false) ∧ '"' ∉ s ∧ '\\' ∉ s
  | .literal => '\n' ∉ s ∧ (∀ c ∈ s, needsEscape c = false) ∧ '\'' ∉ s
  | .multilineBasic => (∀ c ∈ s, needsEscape c = false) ∧ '\\' ∉ s ∧ hasTriple '"' s = false
  | .multilineLiteral => (∀ c ∈ s, needsEscape c = false) ∧ hasTriple '\'' s = false
  | .escaped multiline => multiline = s.contains '\n'

theorem Style.holds_of (s : List Char) : (Style.of s).Holds s := by
  have plain : s.any needsEscape = false → ∀ c ∈ s, needsEscape c = false := by
    intro none c mem
    simpa using List.any_eq_false.mp none c mem
  have absent : ∀ {c : Char}, s.contains c = false → c ∉ s := by
    intro c without
    simpa using without
  unfold Style.of
  simp only
  split
  · rename_i basic
    simp only [Bool.and_eq_true, Bool.not_eq_true'] at basic
    obtain ⟨⟨⟨newline, controls⟩, quotes⟩, backslashes⟩ := basic
    exact ⟨absent newline, plain controls, absent quotes, absent backslashes⟩
  · split
    · rename_i literal
      simp only [Bool.and_eq_true, Bool.not_eq_true'] at literal
      obtain ⟨⟨newline, controls⟩, quotes⟩ := literal
      exact ⟨absent newline, plain controls, absent quotes⟩
    · split
      · rename_i lines
        simp only [Bool.and_eq_true, Bool.not_eq_true'] at lines
        obtain ⟨⟨controls, backslashes⟩, triples⟩ := lines
        exact ⟨plain controls, absent backslashes, triples⟩
      · split
        · rename_i lines
          simp only [Bool.and_eq_true, Bool.not_eq_true'] at lines
          exact ⟨plain lines.1, lines.2⟩
        · rfl

theorem isControl_of_plain {c : Char} (plain : needsEscape c = false) (one_line : c ≠ '\n') :
    isControl c = false := by
  simp only [needsEscape, isControl, Bool.or_eq_false_iff, Bool.and_eq_false_iff] at plain ⊢
  simpa [one_line] using plain

theorem newline?_of_plain {c : Char} (plain : needsEscape c = false) (one_line : c ≠ '\n')
    (r : List Char) : newline? (c :: r) = none := by
  unfold newline?
  split
  · rename_i h
    exact absurd (List.cons.inj h).1 one_line
  · rename_i h
    rw [(List.cons.inj h).1] at plain
    exact absurd plain (by decide)
  · rfl

/-! ## Escapes -/

/-- Control characters are below 128, where two digits are enough. -/
theorem hexValue?_digits : ∀ n < 128,
    hexValue? ['0', '0', hexDigit (n / 16), hexDigit (n % 16)] = some n := by
  decide

theorem escape?_unit {c : Char} (control : needsEscape c = true) (r : List Char) :
    escape? ('u' :: ['0', '0', hexDigit (c.toNat / 16), hexDigit (c.toNat % 16)] ++ r) =
      some (c, r) := by
  have small : c.toNat < 128 := by
    simp only [needsEscape, Bool.or_eq_true, Bool.and_eq_true, decide_eq_true_eq, beq_iff_eq]
      at control
    omega
  have value := hexValue?_digits c.toNat small
  have valid : c.toNat.isValidChar := c.valid
  simp [escape?, codePoint?, value, valid, Char.ofNat_toNat]

/-- A character that is escaped is what its escape is read as, and no line ends behind its
backslash; any other stands for itself. -/
theorem escapeChar_spec (multiline : Bool) (c : Char) :
    (∃ e u, escapeChar multiline c = '\\' :: e :: u ∧ isBlank e = false ∧ e ≠ '\n' ∧ e ≠ '\r' ∧
      ∀ r, escape? (e :: u ++ r) = some (c, r)) ∨
    (escapeChar multiline c = [c] ∧ c ≠ '"' ∧ c ≠ '\\' ∧ needsEscape c = false ∧
      (c = '\n' → multiline = true)) := by
  unfold escapeChar
  split
  · exact .inl ⟨'b', [], rfl, rfl, by decide, by decide, fun _ => rfl⟩
  · exact .inl ⟨'t', [], rfl, rfl, by decide, by decide, fun _ => rfl⟩
  · exact .inl ⟨'f', [], rfl, rfl, by decide, by decide, fun _ => rfl⟩
  · exact .inl ⟨'r', [], rfl, rfl, by decide, by decide, fun _ => rfl⟩
  · exact .inl ⟨'"', [], rfl, rfl, by decide, by decide, fun _ => rfl⟩
  · exact .inl ⟨'\\', [], rfl, rfl, by decide, by decide, fun _ => rfl⟩
  · cases multiline with
    | true => exact .inr ⟨rfl, by decide, by decide, rfl, fun _ => rfl⟩
    | false => exact .inl ⟨'n', [], rfl, rfl, by decide, by decide, fun _ => rfl⟩
  · rename_i quote backslash newline
    by_cases control : needsEscape c = true
    · rw [if_pos control]
      exact .inl ⟨'u', _, rfl, rfl, by decide, by decide, escape?_unit control⟩
    · rw [if_neg control]
      exact .inr ⟨rfl, quote, backslash, eq_false_of_ne_true control,
        fun same => absurd same newline⟩

/-! ## Strings on one line -/

/-- A spelling inside a basic string that is read as one character. -/
def Spells (u : List Char) (c : Char) : Prop :=
  ∀ acc fuel r, basic acc (fuel + 1) (u ++ r) = basic (c :: acc) fuel r

theorem spells_itself {c : Char} (quote : c ≠ '"') (backslash : c ≠ '\\')
    (plain : isControl c = false) : Spells [c] c := by
  intro acc fuel r
  simp [basic, quote, backslash, plain]

theorem spells_escaped (c : Char) : Spells (escapeChar false c) c := by
  rcases escapeChar_spec false c with
    ⟨e, u, written, -, -, -, read⟩ | ⟨written, quote, backslash, plain, newline⟩
  · intro acc fuel r
    rw [written, List.cons_append, basic, if_neg (by decide), if_pos rfl, read]
    rfl
  · rw [written]
    exact spells_itself quote backslash (isControl_of_plain plain (nofun ∘ newline))

theorem basic_spelled {s : List Char} {spell : Char → List Char}
    (spells : ∀ c ∈ s, Spells (spell c) c) (acc rest : List Char) {fuel : Nat}
    (enough : s.length < fuel) :
    basic acc fuel (s.flatMap spell ++ '"' :: rest) =
      some (String.ofList (acc.reverse ++ s), rest) := by
  induction s generalizing acc fuel with
  | nil =>
    obtain ⟨fuel, rfl⟩ := Nat.exists_eq_add_one_of_ne_zero (Nat.ne_of_gt enough)
    simp [basic]
  | cons c s ih =>
    obtain ⟨fuel, rfl⟩ := Nat.exists_eq_add_one_of_ne_zero (Nat.ne_of_gt (Nat.zero_lt_of_lt enough))
    have later := ih (fun d hd => spells d (List.mem_cons_of_mem c hd)) (c :: acc)
      (Nat.lt_of_succ_lt_succ enough)
    rw [List.flatMap_cons, List.append_assoc, spells c List.mem_cons_self, later]
    simp

theorem literal_plain {s : List Char} (plain : ∀ c ∈ s, isControl c = false) (quote : '\'' ∉ s)
    (rest : List Char) : literal (s ++ '\'' :: rest) = some (String.ofList s, rest) := by
  have taken : (s ++ '\'' :: rest).takeWhile (fun c => c ≠ '\'' && !isControl c) = s := by
    rw [List.takeWhile_append_of_pos]
    · simp
    · intro c mem
      have other : c ≠ '\'' := fun same => quote (same ▸ mem)
      simp [other, plain c mem]
  rw [literal, taken]
  simp

/-! ## Strings over several lines -/

theorem takeWhile_quotes {q : Char} {rest : List Char} (ends : rest.head? ≠ some q) :
    rest.takeWhile (· = q) = [] := by
  cases rest with
  | nil => rfl
  | cons c r =>
    have other : c ≠ q := fun same => ends (congrArg some same)
    simp [other]

/-- Three quotes end a string, with up to two before them that belong to it. -/
theorem multiline_end {q : Char} {escapes : Bool} {k : Nat} (few : k < 3) (acc : List Char)
    {rest : List Char} (ends : rest.head? ≠ some q) (fuel : Nat) :
    multiline q escapes acc (fuel + 1) (List.replicate k q ++ q :: q :: q :: rest) =
      some (String.ofList (acc.reverse ++ List.replicate k q), rest) := by
  have stop := takeWhile_quotes ends
  have cases : k = 0 ∨ k = 1 ∨ k = 2 := by omega
  rcases cases with rfl | rfl | rfl
  · simp [multiline, stop]
  · simp [multiline, stop]
  · simp [multiline, stop]

/-- One or two quotes before another character belong to the string. -/
theorem multiline_quote {q : Char} {escapes : Bool} {acc r : List Char} {fuel : Nat}
    (few : (r.takeWhile (· = q)).length < 2) :
    multiline q escapes acc (fuel + 1) (q :: r) = multiline q escapes (q :: acc) fuel r := by
  have short : (r.takeWhile (· = q)).length + 1 < 3 := by omega
  rw [multiline, if_pos rfl]
  simp only [if_pos short]

/-- A character that is neither a quote nor an escape stands for itself. -/
theorem multiline_plain {q c : Char} {escapes : Bool} {acc r : List Char} {fuel : Nat}
    (other : c ≠ q) (plain : needsEscape c = false) (backslash : escapes = true → c ≠ '\\') :
    multiline q escapes acc (fuel + 1) (c :: r) = multiline q escapes (c :: acc) fuel r := by
  have no_escape : ¬ (decide (c = '\\') && escapes) = true := by
    intro escape
    simp only [Bool.and_eq_true, decide_eq_true_eq] at escape
    exact backslash escape.2 escape.1
  rw [multiline, if_neg other, if_neg no_escape]
  by_cases newline : c = '\n'
  · subst newline
    rfl
  · rw [newline?_of_plain plain newline]
    simp only [isControl_of_plain plain newline, Bool.false_eq_true, if_false]

theorem multiline_escaped {acc u r : List Char} {c e : Char} {fuel : Nat}
    (dense : isBlank e = false) (newline : e ≠ '\n') (carriage : e ≠ '\r')
    (read : escape? (e :: u ++ r) = some (c, r)) :
    multiline '"' true acc (fuel + 1) ('\\' :: e :: u ++ r) =
      multiline '"' true (c :: acc) fuel r := by
  have same_line : lineEnd? (e :: u ++ r) = none := by
    have kept : skipBlanks (e :: u ++ r) = e :: u ++ r := by
      rw [skipBlanks, List.cons_append, List.dropWhile_cons_of_neg (by simp [dense])]
    have none : newline? (e :: u ++ r) = none := by
      unfold newline?
      split
      · rename_i h
        exact absurd (List.cons.inj h).1 newline
      · rename_i h
        exact absurd (List.cons.inj h).1 carriage
      · rfl
    rw [lineEnd?, kept, none]
    rfl
  rw [List.cons_append, multiline, if_neg (by decide), if_pos (by decide), same_line, read]
  rfl

/-- The induction runs over the string; quotes in front are taken one at a time, until other
characters or the end follow. -/
theorem multiline_raw {q : Char} {escapes : Bool} {s : List Char}
    (plain : ∀ c ∈ s, needsEscape c = false) (backslash : escapes = true → '\\' ∉ s)
    (triples : hasTriple q s = false) (acc : List Char) {rest : List Char}
    (ends : rest.head? ≠ some q) {fuel : Nat} (enough : s.length < fuel) :
    multiline q escapes acc fuel (s ++ q :: q :: q :: rest) =
      some (String.ofList (acc.reverse ++ s), rest) := by
  induction s generalizing acc fuel with
  | nil =>
    obtain ⟨fuel, rfl⟩ := Nat.exists_eq_add_one_of_ne_zero (Nat.ne_of_gt enough)
    exact multiline_end (k := 0) (by decide) acc ends fuel
  | cons c s ih =>
    obtain ⟨fuel, rfl⟩ := Nat.exists_eq_add_one_of_ne_zero (Nat.ne_of_gt (Nat.zero_lt_of_lt enough))
    have fewer : hasTriple q s = false := by
      match s, triples with
      | [], _ => rfl
      | [_], _ => rfl
      | _ :: _ :: _, triples =>
        simp only [hasTriple, Bool.or_eq_false_iff] at triples
        exact triples.2
    have later := ih (fun d hd => plain d (List.mem_cons_of_mem c hd))
      (fun escape mem => backslash escape (List.mem_cons_of_mem c mem)) fewer (c :: acc)
      (Nat.lt_of_succ_lt_succ enough)
    have regroup : (c :: acc).reverse ++ s = acc.reverse ++ c :: s := by simp
    rw [regroup] at later
    by_cases quote : c = q
    · subst quote
      match s with
      | [] => exact multiline_end (k := 1) (by decide) acc ends fuel
      | d :: s =>
        by_cases next : d = c
        · subst next
          match s with
          | [] => exact multiline_end (k := 2) (by decide) acc ends fuel
          | e :: s =>
            have third : e ≠ d := by
              rintro rfl
              simp [hasTriple] at triples
            rw [List.cons_append, multiline_quote (by simp [third])]
            exact later
        · rw [List.cons_append, multiline_quote (by simp [next])]
          exact later
    · rw [List.cons_append, multiline_plain quote (plain c List.mem_cons_self)]
      · exact later
      · intro escape same
        exact backslash escape (same ▸ List.mem_cons_self)

theorem multiline_spelled (s acc : List Char) {rest : List Char} (ends : rest.head? ≠ some '"')
    {fuel : Nat} (enough : s.length < fuel) :
    multiline '"' true acc fuel (s.flatMap (escapeChar true) ++ '"' :: '"' :: '"' :: rest) =
      some (String.ofList (acc.reverse ++ s), rest) := by
  induction s generalizing acc fuel with
  | nil =>
    obtain ⟨fuel, rfl⟩ := Nat.exists_eq_add_one_of_ne_zero (Nat.ne_of_gt enough)
    exact multiline_end (k := 0) (by decide) acc ends fuel
  | cons c s ih =>
    obtain ⟨fuel, rfl⟩ := Nat.exists_eq_add_one_of_ne_zero (Nat.ne_of_gt (Nat.zero_lt_of_lt enough))
    have later := ih (c :: acc) (Nat.lt_of_succ_lt_succ enough)
    have regroup : (c :: acc).reverse ++ s = acc.reverse ++ c :: s := by simp
    rw [regroup] at later
    rw [List.flatMap_cons, List.append_assoc]
    rcases escapeChar_spec true c with
      ⟨e, u, written, dense, newline, carriage, read⟩ | ⟨written, quote, backslash, plain, -⟩
    · rw [written, multiline_escaped dense newline carriage (read _)]
      exact later
    · rw [written, List.singleton_append, multiline_plain quote plain fun _ => backslash]
      exact later

/-! ## All strings -/

theorem toList_enclose (quotes : String) (multiline : Bool) (body : List Char) :
    (enclose quotes multiline body).toList =
      quotes.toList ++ ((if multiline then ['\n'] else []) ++ (body ++ quotes.toList)) := by
  cases multiline with
  | true => simp [enclose]
  | false => simp [enclose]

/-- A string over several lines starts behind the line break that is written for it. -/
theorem skipFirstNewline_lines {s : List Char} (plain : ∀ c ∈ s, needsEscape c = false) {q : Char}
    (quote : needsEscape q = false) (one_line : q ≠ '\n') (r : List Char) :
    skipFirstNewline ((if s.contains '\n' then ['\n'] else []) ++ (s ++ q :: r)) = s ++ q :: r := by
  by_cases newline : '\n' ∈ s
  · rw [if_pos (List.contains_iff_mem.mpr newline)]
    rfl
  · rw [if_neg (newline ∘ List.contains_iff_mem.mp), List.nil_append]
    cases s with
    | nil =>
      rw [List.nil_append, skipFirstNewline, newline?_of_plain quote one_line, Option.getD_none]
    | cons c s =>
      have other : c ≠ '\n' := fun same => newline (same ▸ List.mem_cons_self)
      rw [List.cons_append, skipFirstNewline,
        newline?_of_plain (plain c List.mem_cons_self) other, Option.getD_none]

theorem string?_basic {body rest : List Char} (inside : body.head? ≠ some '"')
    (ends : rest.head? ≠ some '"') :
    string? ('"' :: (body ++ '"' :: rest)) =
      basic [] ((body ++ '"' :: rest).length + 2) (body ++ '"' :: rest) := by
  unfold string?
  split
  · rename_i h
    have same := (List.cons.inj h).2
    cases body with
    | nil => exact absurd (congrArg List.head? (List.cons.inj same).2) ends
    | cons c r => exact absurd (congrArg some (List.cons.inj same).1) inside
  · rename_i h
    exact absurd (List.cons.inj h).1 (by decide)
  · rename_i h
    rw [(List.cons.inj h).2]
    rfl
  · rename_i h
    exact absurd (List.cons.inj h).1 (by decide)
  · rename_i h _
    exact absurd rfl (h _)

theorem string?_literal {body rest : List Char} (inside : body.head? ≠ some '\'')
    (ends : rest.head? ≠ some '\'') :
    string? ('\'' :: (body ++ '\'' :: rest)) = literal (body ++ '\'' :: rest) := by
  unfold string?
  split
  · rename_i h
    exact absurd (List.cons.inj h).1 (by decide)
  · rename_i h
    have same := (List.cons.inj h).2
    cases body with
    | nil => exact absurd (congrArg List.head? (List.cons.inj same).2) ends
    | cons c r => exact absurd (congrArg some (List.cons.inj same).1) inside
  · rename_i h
    exact absurd (List.cons.inj h).1 (by decide)
  · rename_i h
    rw [(List.cons.inj h).2]
  · rename_i h
    exact absurd rfl (h _)

theorem string?_spelled {s : List Char} {spell : Char → List Char}
    (spells : ∀ c ∈ s, Spells (spell c) c) (long : s.length ≤ (s.flatMap spell).length)
    (inside : (s.flatMap spell).head? ≠ some '"') {rest : List Char}
    (ends : rest.head? ≠ some '"') :
    string? ((enclose "\"" false (s.flatMap spell)).toList ++ rest) =
      some (String.ofList s, rest) := by
  have shape : (enclose "\"" false (s.flatMap spell)).toList ++ rest =
      '"' :: (s.flatMap spell ++ '"' :: rest) := by
    simp [toList_enclose]
  have enough : s.length < (s.flatMap spell ++ '"' :: rest).length + 2 := by
    simp only [List.length_append]
    omega
  rw [shape, string?_basic inside ends, basic_spelled spells [] rest enough]
  rfl

theorem string?_plain {s : List Char} (newline : '\n' ∉ s)
    (plain : ∀ c ∈ s, needsEscape c = false) (quote : '\'' ∉ s) {rest : List Char}
    (ends : rest.head? ≠ some '\'') :
    string? ((enclose "'" false s).toList ++ rest) = some (String.ofList s, rest) := by
  have shape : (enclose "'" false s).toList ++ rest = '\'' :: (s ++ '\'' :: rest) := by
    simp [toList_enclose]
  have controls : ∀ c ∈ s, isControl c = false := fun c mem =>
    isControl_of_plain (plain c mem) fun same => newline (same ▸ mem)
  rw [shape, string?_literal (fun first => quote (List.mem_of_head? first)) ends,
    literal_plain controls quote]

theorem string?_lines (quotes : String) {s : List Char} {q : Char} {escapes : Bool}
    (three : quotes.toList = [q, q, q])
    (opened : ∀ r, string? (q :: q :: q :: r) =
      multiline q escapes [] (r.length + 4) (skipFirstNewline r))
    (visible : needsEscape q = false ∧ q ≠ '\n') (plain : ∀ c ∈ s, needsEscape c = false)
    (backslash : escapes = true → '\\' ∉ s) (triples : hasTriple q s = false) {rest : List Char}
    (ends : rest.head? ≠ some q) :
    string? ((enclose quotes (s.contains '\n') s).toList ++ rest) =
      some (String.ofList s, rest) := by
  have shape : (enclose quotes (s.contains '\n') s).toList ++ rest =
      q :: q :: q :: ((if s.contains '\n' then ['\n'] else []) ++ (s ++ q :: q :: q :: rest)) := by
    simp [toList_enclose, three]
  rw [shape, opened, skipFirstNewline_lines plain visible.1 visible.2]
  refine multiline_raw plain backslash triples [] ends ?_
  simp only [List.length_append]
  omega

theorem length_le_escaped (multiline : Bool) (s : List Char) :
    s.length ≤ (s.flatMap (escapeChar multiline)).length := by
  induction s with
  | nil => exact Nat.le_refl 0
  | cons c s ih =>
    have some_char : escapeChar multiline c ≠ [] := by
      rcases escapeChar_spec multiline c with ⟨e, u, written, -⟩ | ⟨written, -⟩
      · simp [written]
      · simp [written]
    have := List.length_pos_iff.mpr some_char
    simp only [List.flatMap_cons, List.length_append, List.length_cons]
    omega

theorem head?_escaped (multiline : Bool) (s : List Char) :
    (s.flatMap (escapeChar multiline)).head? ≠ some '"' := by
  cases s with
  | nil => nofun
  | cons c s =>
    rcases escapeChar_spec multiline c with ⟨e, u, written, -⟩ | ⟨written, quote, -⟩
    · simp [written]
    · simp [written, quote]

theorem string?_escapedLines (s : List Char) {rest : List Char} (ends : rest.head? ≠ some '"') :
    string? ((enclose "\"\"\"" true (s.flatMap (escapeChar true))).toList ++ rest) =
      some (String.ofList s, rest) := by
  have shape : (enclose "\"\"\"" true (s.flatMap (escapeChar true))).toList ++ rest =
      '"' :: '"' :: '"' :: '\n' ::
        (s.flatMap (escapeChar true) ++ '"' :: '"' :: '"' :: rest) := by
    simp [toList_enclose]
  have long := length_le_escaped true s
  have enough :
      s.length < (s.flatMap (escapeChar true) ++ '"' :: '"' :: '"' :: rest).length + 5 := by
    simp only [List.length_append]
    omega
  rw [shape]
  exact multiline_spelled s [] ends enough

/-- What follows a string is no quote. -/
def EndsString (rest : List Char) : Prop := rest.head? ≠ some '"' ∧ rest.head? ≠ some '\''

/-- Any string is read back from its text, whatever characters it holds. -/
theorem string?_stringText (s : String) {rest : List Char} (ends : EndsString rest) :
    string? ((stringText s).toList ++ rest) = some (s, rest) := by
  have holds := Style.holds_of s.toList
  have same : some (String.ofList s.toList, rest) = some (s, rest) := by rw [String.ofList_toList]
  unfold stringText
  simp only
  generalize Style.of s.toList = style at holds
  cases style with
  | basic =>
    obtain ⟨newline, plain, quote, backslash⟩ := holds
    have spells : ∀ c ∈ s.toList, Spells [c] c := fun c mem =>
      spells_itself (fun same => quote (same ▸ mem)) (fun same => backslash (same ▸ mem))
        (isControl_of_plain (plain c mem) fun same => newline (same ▸ mem))
    have itself : s.toList.flatMap (fun c => [c]) = s.toList := by simp
    have inside : s.toList.head? ≠ some '"' := fun first => quote (List.mem_of_head? first)
    have long : s.toList.length ≤ (s.toList.flatMap fun c => [c]).length :=
      Nat.le_of_eq (congrArg List.length itself.symm)
    have read := string?_spelled spells long (itself.symm ▸ inside) ends.1
    rw [itself] at read
    exact read.trans same
  | literal =>
    obtain ⟨newline, plain, quote⟩ := holds
    exact (string?_plain newline plain quote ends.2).trans same
  | multilineBasic =>
    obtain ⟨plain, backslash, triples⟩ := holds
    have read := string?_lines "\"\"\"" rfl (fun _ => rfl) ⟨rfl, by decide⟩ plain
      (fun _ => backslash) triples ends.1
    exact read.trans same
  | multilineLiteral =>
    obtain ⟨plain, triples⟩ := holds
    have read := string?_lines "'''" rfl (fun _ => rfl) ⟨rfl, by decide⟩ plain nofun triples
      ends.2
    exact read.trans same
  | escaped multiline =>
    cases multiline with
    | false =>
      have read := string?_spelled (fun c _ => spells_escaped c) (length_le_escaped false s.toList)
        (head?_escaped false s.toList) ends.1
      exact read.trans same
    | true => exact (string?_escapedLines s.toList ends.1).trans same

end PointRelay.Toml
