import PointRelay.Proofs.Toml.Values

/-!
# Documents read back

A document is read line by line into a tree. A line adds its key at the end of the table whose
header came last, as long as the key is new there, so the tree that is built is the one that was
written.
-/

namespace PointRelay.Toml

/-! ## New keys -/

namespace Entries

/-- The keys of entries. -/
def keys (es : Entries) : List String := es.map Prod.fst

theorem get?_fresh {es : Entries} {k : String} (fresh : k ∉ es.keys) : es.get? k = none := by
  have none : es.find? (fun e => e.1 = k) = none := by
    rw [List.find?_eq_none]
    intro e mem same
    exact fresh (of_decide_eq_true same ▸ List.mem_map_of_mem mem)
  rw [get?, none]
  rfl

theorem set_fresh {es : Entries} {k : String} (fresh : k ∉ es.keys) (n : Node) :
    es.set k n = es ++ [(k, n)] := by
  induction es with
  | nil => rfl
  | cons e es ih =>
    have other : e.1 ≠ k := fun same => fresh (same ▸ List.mem_cons_self)
    have later : k ∉ keys es := fun mem => fresh (List.mem_cons_of_mem e.1 mem)
    rw [set, if_neg other, ih later]
    rfl

theorem get?_last {es : Entries} {k : String} (fresh : k ∉ es.keys) (n : Node) :
    get? (es ++ [(k, n)]) k = some n := by
  have none := get?_fresh fresh
  rw [get?, Option.map_eq_none_iff] at none
  rw [get?, List.find?_append, none]
  simp

theorem set_last {es : Entries} {k : String} (fresh : k ∉ es.keys) (n m : Node) :
    set (es ++ [(k, n)]) k m = es ++ [(k, m)] := by
  induction es with
  | nil => simp [set]
  | cons e es ih =>
    have other : e.1 ≠ k := fun same => fresh (same ▸ List.mem_cons_self)
    have later : k ∉ keys es := fun mem => fresh (List.mem_cons_of_mem e.1 mem)
    rw [List.cons_append, set, if_neg other, ih later]
    rfl

end Entries

/-- Below the path stand entries, and the whole tree is what the function makes of them. -/
def Below (path : List String) (whole : Entries → Entries) : Prop :=
  ∀ f es, descend f path (whole es) = (f es).map whole

theorem below_root : Below [] id := by
  intro f es
  rw [descend, Option.map_id]
  rfl

theorem below_table {root : Entries} {k : String} (fresh : k ∉ root.keys) :
    Below [k] fun es => root ++ [(k, .table .header es)] := by
  intro f es
  rw [descend, Entries.get?_last fresh]
  simp only [descend]
  cases f es with
  | none => rfl
  | some es' => exact congrArg some (Entries.set_last fresh _ _)

/-! ## Keys -/

theorem solid_of_isKeyChar {c : Char} (key : isKeyChar c = true) : Solid c := by
  refine ⟨?_, ?_, ?_, ?_⟩
  · cases blank : isBlank c with
    | false => rfl
    | true =>
      simp only [isBlank, Bool.or_eq_true, decide_eq_true_eq] at blank
      rcases blank with rfl | rfl
      · exact absurd key (by decide)
      · exact absurd key (by decide)
  · rintro rfl
    exact absurd key (by decide)
  · rintro rfl
    exact absurd key (by decide)
  · rintro rfl
    exact absurd key (by decide)

theorem isBareKey_chars {k : String} (bare : isBareKey k = true) :
    ∃ c r, k.toList = c :: r ∧ ∀ d ∈ c :: r, isKeyChar d = true := by
  simp only [isBareKey, Bool.and_eq_true, decide_eq_true_eq] at bare
  obtain ⟨some_char, all⟩ := bare
  cases chars : k.toList with
  | nil => exact absurd (String.toList_eq_nil_iff.mp chars) some_char
  | cons c r =>
    rw [chars] at all
    exact ⟨c, r, rfl, List.all_eq_true.mp all⟩

theorem simpleKey?_bare {k : String} (bare : isBareKey k = true) {rest : List Char}
    (ends : ∀ c ∈ rest.head?, isKeyChar c = false) :
    simpleKey? (k.toList ++ rest) = some (k, rest) := by
  obtain ⟨c, r, chars, keys⟩ := isBareKey_chars bare
  have key := keys c List.mem_cons_self
  have taken := (Text.takeWhile_run keys ends).1
  have other : ∀ {d : Char}, isKeyChar d = false → c ≠ d := by
    rintro d none rfl
    rw [key] at none
    cases none
  have whole : String.ofList (c :: r) = k := by rw [← chars, String.ofList_toList]
  rw [chars]
  unfold simpleKey?
  split
  · rename_i same
    exact absurd (List.cons.inj same).1 (other rfl)
  · rename_i same
    exact absurd (List.cons.inj same).1 (other rfl)
  · rename_i same
    exact absurd (List.cons.inj same).1 (other rfl)
  · rename_i same
    exact absurd (List.cons.inj same).1 (other rfl)
  · simp only [taken, List.drop_left, whole]
    rfl

/-- A bare key is read up to what follows it and its blanks. -/
theorem key?_bare {k : String} (bare : isBareKey k = true) {stop : List Char} {c : Char}
    {r : List Char} (ends : ∀ c ∈ stop.head?, isKeyChar c = false)
    (skipped : skipBlanks stop = c :: r) (single : c ≠ '.') (fuel : Nat) :
    key? (fuel + 1) (k.toList ++ stop) = some ([k], c :: r) := by
  have first := simpleKey?_bare bare ends
  obtain ⟨d, ds, chars, keys⟩ := isBareKey_chars bare
  have kept : skipBlanks (k.toList ++ stop) = k.toList ++ stop := by
    rw [chars]
    exact (solid_of_isKeyChar (keys d List.mem_cons_self)).skipBlanks _
  rw [key?, kept, first]
  simp only [Option.bind_eq_bind, Option.bind_some, skipped]
  split
  · rename_i same
    exact absurd (List.cons.inj same).1 single
  · rfl

/-! ## Lines -/

/-- Settings with bare keys, each key once. -/
structure Settings (es : List (String × Toml)) : Prop where
  bare : ∀ e ∈ es, isBareKey e.1 = true
  setting : ∀ e ∈ es, Setting e.2
  distinct : (es.map Prod.fst).Nodup

theorem Settings.tail {e : String × Toml} {es : List (String × Toml)}
    (settings : Settings (e :: es)) : Settings es :=
  ⟨fun d mem => settings.bare d (List.mem_cons_of_mem e mem),
    fun d mem => settings.setting d (List.mem_cons_of_mem e mem),
    (List.nodup_cons.mp settings.distinct).2⟩

/-- The entries that settings become. -/
def nodes (es : List (String × Toml)) : Entries := es.map fun e => (e.1, .value e.2)

theorem keys_nodes (es : List (String × Toml)) : (nodes es).keys = es.map Prod.fst := by
  simp [nodes, Entries.keys]

theorem Setting.first {v : Toml} (setting : Setting v) :
    ∃ c r, v.valueText.toList = c :: r ∧ isBlank c = false := by
  cases setting with
  | text s =>
    obtain ⟨q, r, text, quote⟩ := stringText_quote s
    exact ⟨q, r, text, quote.solid.dense⟩
  | number n small =>
    have digits : (valueText (.integer n)).toList = Decimal.natText n := Nat.toList_repr
    rw [digits]
    cases text : Decimal.natText n with
    | nil => exact absurd text (Decimal.natText_ne_nil n)
    | cons d ds =>
      have digit : d.isDigit = true :=
        Decimal.allDigits_natText n d (text ▸ List.mem_cons_self)
      have key : isKeyChar d = true := by simp [isKeyChar, Char.isAlphanum, digit]
      exact ⟨d, ds, rfl, (solid_of_isKeyChar key).dense⟩
  | texts items =>
    rw [valueText_texts]
    cases items with
    | nil => exact ⟨'[', _, rfl, rfl⟩
    | cons s items =>
      cases items with
      | nil => exact ⟨'[', _, rfl, rfl⟩
      | cons t items => exact ⟨'[', _, rfl, rfl⟩

theorem toList_line {k : String} (bare : isBareKey k = true) (v : Toml) (rest : List Char) :
    (line k v).toList ++ rest =
      k.toList ++ ' ' :: '=' :: ' ' :: (v.valueText.toList ++ '\n' :: rest) := by
  simp [line, keyText, bare]

/-- A key and its value, read up to the end of their line. -/
theorem keyValue?_line {k : String} {v : Toml} (bare : isBareKey k = true) (setting : Setting v)
    {path : List String} {whole : Entries → Entries} (below : Below path whole) {es : Entries}
    (fresh : k ∉ es.keys) (rest : List Char) :
    keyValue? ⟨whole es, path⟩ ((line k v).toList ++ rest) =
      some (⟨whole (es ++ [(k, .value v)]), path⟩, '\n' :: rest) := by
  have key : ∀ fuel, key? (fuel + 1)
      (k.toList ++ ' ' :: '=' :: ' ' :: (v.valueText.toList ++ '\n' :: rest)) =
      some ([k], '=' :: ' ' :: (v.valueText.toList ++ '\n' :: rest)) :=
    key?_bare bare (by rintro c ⟨⟩; decide) rfl (by decide)
  have skipped : skipBlanks (' ' :: (v.valueText.toList ++ '\n' :: rest)) =
      v.valueText.toList ++ '\n' :: rest := by
    obtain ⟨c, r, text, dense⟩ := setting.first
    rw [text, List.cons_append, skipBlanks, List.dropWhile_cons_of_pos rfl,
      List.dropWhile_cons_of_neg (by simp [dense])]
  have enough : (v.valueText.toList ++ '\n' :: rest).length + 2 ≤
      2 * (v.valueText.toList ++ '\n' :: rest).length + 2 := by omega
  have value := setting.value? rest 79 enough
  have assigned : descend (assign v [k]) path (whole es) =
      some (whole (es ++ [(k, .value v)])) := by
    rw [below, assign, Entries.get?_fresh fresh, Entries.set_fresh fresh]
    rfl
  rw [toList_line bare, keyValue?, key]
  simp only [Option.bind_eq_bind, Option.bind_some, skipped]
  rw [show depthLimit = 79 + 1 from rfl, value]
  simp only [Option.bind_some, assigned]

/-- Lines that are read lead from one state of the document to another, and the fuel of the reader,
which is more than there is text, stays more than is left. -/
def Reads (d : Document) (cs : List Char) (d' : Document) (rest : List Char) : Prop :=
  ∀ fuel, cs.length < fuel → ∃ left, rest.length < left ∧ lines? d fuel cs = lines? d' left rest

theorem Reads.refl (d : Document) (cs : List Char) : Reads d cs d cs :=
  fun fuel enough => ⟨fuel, enough, rfl⟩

theorem Reads.trans {a b c : Document} {xs ys zs : List Char} (first : Reads a xs b ys)
    (second : Reads b ys c zs) : Reads a xs c zs := by
  intro fuel enough
  obtain ⟨middle, enough, read⟩ := first fuel enough
  obtain ⟨left, enough, read'⟩ := second middle enough
  exact ⟨left, enough, read.trans read'⟩

/-- A reader that has come to the end has read the document. -/
theorem Reads.lines? {d d' : Document} {cs : List Char} (reads : Reads d cs d' []) :
    lines? d (cs.length + 1) cs = some d' := by
  obtain ⟨left, enough, read⟩ := reads _ (Nat.lt_succ_self _)
  obtain ⟨left, rfl⟩ := Nat.exists_eq_add_one_of_ne_zero (Nat.ne_of_gt enough)
  rw [read]
  rfl

/-- One step of the reader takes at least one character. -/
theorem Reads.step {d d' : Document} {c : Char} {r rest : List Char}
    (shorter : rest.length ≤ r.length)
    (read : ∀ fuel, Toml.lines? d (fuel + 1) (c :: r) = Toml.lines? d' fuel rest) :
    Reads d (c :: r) d' rest := by
  intro fuel enough
  obtain ⟨fuel, rfl⟩ := Nat.exists_eq_add_one_of_ne_zero (Nat.ne_of_gt (Nat.zero_lt_of_lt enough))
  refine ⟨fuel, ?_, read fuel⟩
  rw [List.length_cons] at enough
  omega

theorem endOfLine?_newline (rest : List Char) : endOfLine? ('\n' :: rest) = some rest := rfl

theorem reads_newline (d : Document) (rest : List Char) : Reads d ('\n' :: rest) d rest :=
  Reads.step (Nat.le_refl _) fun _ => rfl

theorem reads_line {k : String} {v : Toml} (bare : isBareKey k = true) (setting : Setting v)
    {path : List String} {whole : Entries → Entries} (below : Below path whole) {es : Entries}
    (fresh : k ∉ es.keys) (rest : List Char) :
    Reads ⟨whole es, path⟩ ((line k v).toList ++ rest)
      ⟨whole (es ++ [(k, .value v)]), path⟩ rest := by
  have read := keyValue?_line bare setting below fresh rest
  obtain ⟨c, r, chars, keys⟩ := isBareKey_chars bare
  have key := keys c List.mem_cons_self
  have solid := solid_of_isKeyChar key
  have closed : c ≠ '[' := by
    rintro rfl
    exact absurd key (by decide)
  rw [toList_line bare, chars, List.cons_append] at read ⊢
  refine Reads.step (by simp; omega) fun fuel => ?_
  have other : ¬ (c = '#' ∨ c = '\n' ∨ c = '\r') := by
    rintro (same | same | same)
    · exact solid.comment same
    · exact solid.newline same
    · exact solid.carriage same
  rw [Toml.lines?, solid.skipBlanks]
  simp only [if_neg other, if_neg closed, read, Option.bind_eq_bind, Option.bind_some,
    endOfLine?_newline]

theorem plainLines_cons {k : String} {v : Toml} (setting : Setting v) (es : List (String × Toml)) :
    plainLines ((k, v) :: es) = line k v ++ plainLines es := by
  cases setting with
  | text s => exact String.join_cons
  | number n small => exact String.join_cons
  | texts items => exact String.join_cons

/-- The settings of a table are added to it in order. -/
theorem reads_plainLines {es : List (String × Toml)} (settings : Settings es)
    {path : List String} {whole : Entries → Entries} (below : Below path whole) (before : Entries)
    (fresh : ∀ k ∈ es.map Prod.fst, k ∉ before.keys) (rest : List Char) :
    Reads ⟨whole before, path⟩ ((plainLines es).toList ++ rest)
      ⟨whole (before ++ nodes es), path⟩ rest := by
  induction es generalizing before with
  | nil =>
    rw [nodes, List.map_nil, List.append_nil]
    exact Reads.refl _ _
  | cons e es ih =>
    obtain ⟨k, v⟩ := e
    have setting := settings.setting (k, v) List.mem_cons_self
    have bare := settings.bare (k, v) List.mem_cons_self
    have distinct := (List.nodup_cons.mp settings.distinct).1
    have first := reads_line bare setting below (fresh k List.mem_cons_self)
      ((plainLines es).toList ++ rest)
    have others : ∀ k' ∈ es.map Prod.fst, k' ∉ Entries.keys (before ++ [(k, .value v)]) := by
      intro k' mem there
      rw [Entries.keys, List.map_append, List.mem_append] at there
      rcases there with there | there
      · exact fresh k' (List.mem_cons_of_mem k mem) there
      · exact distinct (List.mem_singleton.mp there ▸ mem)
    have later := ih settings.tail _ others
    rw [List.append_assoc] at later
    rw [plainLines_cons setting, String.toList_append, List.append_assoc]
    exact first.trans later

/-! ## Tables -/

/-- The header of a table that is new makes it, empty, the one to which the next lines add. -/
theorem reads_header {k : String} (bare : isBareKey k = true) {root : Entries} (path : List String)
    (fresh : k ∉ root.keys) (rest : List Char) :
    Reads ⟨root, path⟩ ('[' :: (k.toList ++ ']' :: '\n' :: rest))
      ⟨root ++ [(k, .table .header [])], [k]⟩ rest := by
  have key : ∀ fuel, key? (fuel + 1) (k.toList ++ ']' :: '\n' :: rest) =
      some ([k], ']' :: '\n' :: rest) :=
    key?_bare bare (by rintro c ⟨⟩; decide) rfl (by decide)
  have opened : descend (openTable k) [] root = some (root ++ [(k, .table .header [])]) := by
    rw [descend, openTable, Entries.get?_fresh fresh]
    exact congrArg some (Entries.set_fresh fresh _)
  have header : header? ⟨root, path⟩ (k.toList ++ ']' :: '\n' :: rest) =
      some (⟨root ++ [(k, .table .header [])], [k]⟩, '\n' :: rest) := by
    obtain ⟨c, r, chars, keys⟩ := isBareKey_chars bare
    have single : c ≠ '[' := by
      rintro rfl
      exact absurd (keys '[' List.mem_cons_self) (by decide)
    unfold header?
    split
    rename_i element r' found
    split at found
    · rename_i same
      rw [chars] at same
      exact absurd (List.cons.inj same).1 single
    · obtain ⟨rfl, rfl⟩ := Prod.mk.inj found
      simp only [key, Option.bind_eq_bind, Option.bind_some, List.getLast?_singleton,
        List.dropLast_singleton, Bool.false_eq_true, if_false, opened]
  refine Reads.step (by simp; omega) fun fuel => ?_
  have bracket : skipBlanks ('[' :: (k.toList ++ ']' :: '\n' :: rest)) =
      '[' :: (k.toList ++ ']' :: '\n' :: rest) := rfl
  rw [Toml.lines?, bracket]
  simp only [Option.bind_eq_bind, header, Option.bind_some, endOfLine?_newline]
  rfl

/-- A table of settings behind its header, an empty line before it. -/
def tableText (t : String × List (String × Toml)) : List Char :=
  '\n' :: '[' :: (t.1.toList ++ ']' :: '\n' :: (plainLines t.2).toList)

/-- Tables of settings with bare keys, each key once. -/
structure Tables (ts : List (String × List (String × Toml))) : Prop where
  bare : ∀ t ∈ ts, isBareKey t.1 = true
  settings : ∀ t ∈ ts, Settings t.2
  distinct : (ts.map Prod.fst).Nodup

/-- The entries that tables become. -/
def headed (ts : List (String × List (String × Toml))) : Entries :=
  ts.map fun t => (t.1, .table .header (nodes t.2))

theorem reads_table {t : String × List (String × Toml)} (bare : isBareKey t.1 = true)
    (settings : Settings t.2) {root : Entries} (path : List String) (fresh : t.1 ∉ root.keys)
    (rest : List Char) :
    Reads ⟨root, path⟩ (tableText t ++ rest)
      ⟨root ++ [(t.1, .table .header (nodes t.2))], [t.1]⟩ rest := by
  have header := reads_header bare path fresh ((plainLines t.2).toList ++ rest)
  have lines := reads_plainLines settings (below_table fresh) [] (fun _ _ => List.not_mem_nil) rest
  have shape : tableText t ++ rest =
      '\n' :: '[' :: (t.1.toList ++ ']' :: '\n' :: ((plainLines t.2).toList ++ rest)) := by
    simp [tableText]
  rw [shape]
  exact (reads_newline _ _).trans (header.trans lines)

theorem reads_tables {ts : List (String × List (String × Toml))} (tables : Tables ts)
    (root : Entries) (path : List String) (fresh : ∀ k ∈ ts.map Prod.fst, k ∉ root.keys) :
    ∃ path', Reads ⟨root, path⟩ (ts.flatMap tableText) ⟨root ++ headed ts, path'⟩ [] := by
  induction ts generalizing root path with
  | nil =>
    rw [headed, List.map_nil, List.append_nil]
    exact ⟨path, Reads.refl _ _⟩
  | cons t ts ih =>
    have distinct := List.nodup_cons.mp tables.distinct
    have first := reads_table (tables.bare t List.mem_cons_self)
      (tables.settings t List.mem_cons_self) path (fresh t.1 List.mem_cons_self)
      (ts.flatMap tableText)
    have others : ∀ k ∈ ts.map Prod.fst,
        k ∉ Entries.keys (root ++ [(t.1, .table .header (nodes t.2))]) := by
      intro k mem there
      rw [Entries.keys, List.map_append, List.mem_append] at there
      rcases there with there | there
      · exact fresh k (List.mem_cons_of_mem t.1 mem) there
      · exact distinct.1 (List.mem_singleton.mp there ▸ mem)
    have rest : Tables ts :=
      ⟨fun u mem => tables.bare u (List.mem_cons_of_mem t mem),
        fun u mem => tables.settings u (List.mem_cons_of_mem t mem), distinct.2⟩
    obtain ⟨path', later⟩ := ih rest _ [t.1] others
    rw [List.append_assoc] at later
    exact ⟨path', first.trans later⟩

/-! ## Documents -/

theorem entriesToToml_nodes (es : List (String × Toml)) :
    Node.toToml.entriesToToml (nodes es) = es := by
  induction es with
  | nil => rfl
  | cons e es ih =>
    change (e.1, e.2) :: Node.toToml.entriesToToml (nodes es) = e :: es
    rw [ih]

/-- A document of settings and of tables with settings of their own. -/
def document (es : List (String × Toml)) (ts : List (String × List (String × Toml))) :
    List (String × Toml) :=
  es ++ ts.map fun t => (t.1, .table t.2)

theorem entriesToToml_document (es : List (String × Toml))
    (ts : List (String × List (String × Toml))) :
    Node.toToml.entriesToToml (nodes es ++ headed ts) = document es ts := by
  induction es with
  | nil =>
    induction ts with
    | nil => rfl
    | cons t ts ih =>
      change (t.1, .table (Node.toToml.entriesToToml (nodes t.2))) ::
        Node.toToml.entriesToToml (nodes [] ++ headed ts) = (t.1, .table t.2) :: document [] ts
      rw [ih, entriesToToml_nodes]
  | cons e es ih =>
    change (e.1, e.2) :: Node.toToml.entriesToToml (nodes es ++ headed ts) = e :: document es ts
    rw [ih]

theorem plainLines_tables (ts : List (String × List (String × Toml))) :
    plainLines (document [] ts) = "" := by
  induction ts with
  | nil => rfl
  | cons t ts ih =>
    change String.join ("" :: _) = ""
    rw [String.join_cons]
    exact ih

theorem plainLines_document {es : List (String × Toml)} (settings : Settings es)
    (ts : List (String × List (String × Toml))) :
    plainLines (document es ts) = plainLines es := by
  induction es with
  | nil => exact plainLines_tables ts
  | cons e es ih =>
    have setting := settings.setting e List.mem_cons_self
    rw [plainLines_cons setting, ← ih settings.tail]
    exact plainLines_cons setting (document es ts)

/-- A table of settings behind its header. -/
def headedText (t : String × List (String × Toml)) : String :=
  "[" ++ keyText t.1 ++ "]\n" ++ plainLines t.2

/-- The texts of the tables among the entries of a document. -/
theorem tableTexts_document {es : List (String × Toml)} (settings : Settings es)
    (ts : List (String × List (String × Toml))) :
    ((document es ts).filterMap fun
      | (k, .table inner) => some ("[" ++ keyText k ++ "]\n" ++ plainLines inner)
      | _ => none) = ts.map headedText := by
  induction es with
  | nil =>
    induction ts with
    | nil => rfl
    | cons t ts ih => exact congrArg (headedText t :: ·) ih
  | cons e es ih =>
    obtain ⟨k, v⟩ := e
    have later := ih settings.tail
    cases settings.setting (k, v) List.mem_cons_self with
    | text s => exact later
    | number n small => exact later
    | texts items => exact later

theorem plainLines_ne_empty {es : List (String × Toml)} (settings : Settings es)
    (some_setting : es ≠ []) : plainLines es ≠ "" := by
  intro empty
  obtain ⟨e, es, rfl⟩ := List.exists_cons_of_ne_nil some_setting
  rw [plainLines_cons (settings.setting e List.mem_cons_self)] at empty
  have chars := congrArg String.toList empty
  rw [String.toList_append, toList_line (settings.bare e List.mem_cons_self)] at chars
  simp at chars

theorem toList_documentText {es : List (String × Toml)} (settings : Settings es)
    (some_setting : es ≠ []) {ts : List (String × List (String × Toml))} (tables : Tables ts) :
    (documentText (document es ts)).toList = (plainLines es).toList ++ ts.flatMap tableText := by
  have shape : documentText (document es ts) =
      "\n".intercalate (plainLines es :: ts.map headedText) := by
    have plain := plainLines_ne_empty settings some_setting
    simp only [documentText, plainLines_document settings, if_neg plain, List.singleton_append]
    exact congrArg (fun texts => "\n".intercalate (plainLines es :: texts))
      (tableTexts_document settings ts)
  have texts : ts.flatMap (fun t => "\n".toList ++ (headedText t).toList) =
      ts.flatMap tableText := by
    rw [List.flatMap_def, List.flatMap_def]
    congr 1
    refine List.map_congr_left fun t mem => ?_
    simp [headedText, keyText, tables.bare t mem, tableText]
  rw [shape, Text.toList_intercalate_cons, List.flatMap_map, texts]

theorem read?_unmarked {s : String} (unmarked : s.toList.head? ≠ some '\uFEFF') :
    read? s = (lines? ⟨[], []⟩ (s.toList.length + 1) s.toList).map fun d =>
      (Node.table .header d.root).toToml := by
  unfold read?
  split
  · rename_i marked
    exact absurd (congrArg List.head? marked) unmarked
  · simp only [Option.bind_eq_bind]
    cases lines? ⟨[], []⟩ (s.toList.length + 1) s.toList with
    | none => rfl
    | some d => rfl

/-- Documents of settings and tables are read back. -/
theorem read?_documentText {es : List (String × Toml)} (settings : Settings es)
    (some_setting : es ≠ []) {ts : List (String × List (String × Toml))} (tables : Tables ts)
    (apart : ∀ k ∈ ts.map Prod.fst, k ∉ es.map Prod.fst) :
    read? (documentText (document es ts)) = some (.table (document es ts)) := by
  have text := toList_documentText settings some_setting tables
  have lines := reads_plainLines settings below_root [] (fun _ _ => List.not_mem_nil)
    (ts.flatMap tableText)
  obtain ⟨path, later⟩ := reads_tables tables (nodes es) [] (keys_nodes es ▸ apart)
  have all := (lines.trans later).lines?
  have unmarked : (documentText (document es ts)).toList.head? ≠ some '\uFEFF' := by
    obtain ⟨e, es, rfl⟩ := List.exists_cons_of_ne_nil some_setting
    have bare := settings.bare e List.mem_cons_self
    obtain ⟨c, r, chars, keys⟩ := isBareKey_chars bare
    rw [text, plainLines_cons (settings.setting e List.mem_cons_self), String.toList_append,
      List.append_assoc, toList_line bare, chars]
    intro marked
    have key := keys c List.mem_cons_self
    rw [Option.some.inj marked] at key
    exact absurd key (by decide)
  have tree : (Node.table .header (nodes es ++ headed ts)).toToml = .table (document es ts) :=
    congrArg Toml.table (entriesToToml_document es ts)
  rw [← text] at all
  exact (read?_unmarked unmarked).trans ((congrArg _ all).trans (congrArg some tree))

end PointRelay.Toml
