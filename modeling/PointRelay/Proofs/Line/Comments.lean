import PointRelay.Proofs.Feed.Relay
import PointRelay.Proofs.Line.RoundTrip
import PointRelay.Scripted

/-!
# Lines that the store passes over

The store cuts a text into lines at the line breaks outside quoted values, and passes over the empty
ones and over comments, which begin with a number sign. The text of an encoded batch is cut between
its points and nowhere else. No line of it is empty; but the number sign has no meaning to those who
write a line, only to those who read it, and a point whose name begins with one is not seen.
-/

namespace PointRelay

namespace Line

/-! ## Cutting a text into lines -/

/-- Where in a line a character stands. Behind a backslash it may lose its meaning. -/
inductive Zone where
  /-- The measurement and the tags. -/
  | head (escaped : Bool)
  | key (escaped : Bool)
  | value (begun : Bool)
  | quoted (escaped : Bool)
  | time
deriving DecidableEq, Repr

namespace Zone

def next : Zone → Char → Zone
  | head escaped, c => if c = ' ' ∧ escaped = false then key false else head (c = '\\')
  | key escaped, c => if c = '=' ∧ escaped = false then value false else key (c = '\\')
  | value begun, c =>
    if c = ',' then key false
    else if c = ' ' then time
    else if c = '"' ∧ begun = false then quoted false
    else value true
  | quoted true, _ => quoted false
  | quoted false, c => if c = '"' then value true else quoted (c = '\\')
  | time, _ => time

def isQuoted : Zone → Bool
  | quoted _ => true
  | _ => false

end Zone

/-- The lines of a text that goes on from a zone. The last one has no line break behind it. -/
def cutFrom (z : Zone) : List Char → List (List Char)
  | [] => [[]]
  | c :: cs =>
    if c = '\n' ∧ z.isQuoted = false then [] :: cutFrom (.head false) cs
    else (cutFrom (z.next c) cs).modifyHead (c :: ·)

/-- The store looks at a line: it is neither empty nor a comment. -/
def isSeen (line : List Char) : Bool := line.head?.any (· ≠ '#')

def beginsComment (name : String) : Bool := name.toList.head? = some '#'

/-- The lines of a text that the store looks at. -/
def seen (text : String) : List String :=
  ((cutFrom (.head false) text.toList).filter isSeen).map String.ofList

/-- A text leads from one zone to another without a line break that would cut it. -/
inductive Passes : Zone → List Char → Zone → Prop where
  | nil (z : Zone) : Passes z [] z
  | cons {z z' : Zone} {c : Char} {cs : List Char} (whole : ¬ (c = '\n' ∧ z.isQuoted = false))
      (later : Passes (z.next c) cs z') : Passes z (c :: cs) z'

namespace Passes

variable {x y z : Zone} {cs ds : List Char} {c : Char}

theorem append (first : Passes x cs y) (second : Passes y ds z) : Passes x (cs ++ ds) z := by
  induction first with
  | nil => exact second
  | cons whole _ ih => exact .cons whole (ih second)

theorem step (whole : c ≠ '\n') (next : x.next c = y) (later : Passes y cs z) :
    Passes x (c :: cs) z :=
  .cons (fun cut => whole cut.1) (next ▸ later)

theorem bare {begun : Bool} (plain : isBare c = true) (quote : c = '"' → begun = true)
    (later : Passes (.value true) cs z) : Passes (.value begun) (c :: cs) z := by
  simp only [isBare, Bool.and_eq_true, decide_eq_true_eq] at plain
  obtain ⟨⟨comma, space⟩, one_line⟩ := plain
  have goes_on : ¬ (c = '"' ∧ begun = false) := by
    rintro ⟨opens, fresh⟩
    rw [quote opens] at fresh
    exact Bool.noConfusion fresh
  refine .step one_line ?_ later
  rw [Zone.next, if_neg comma, if_neg space, if_neg goes_on]

theorem cutFrom_append (passes : Passes x cs y) (opened : y.isQuoted = false) (rest : List Char) :
    cutFrom x (cs ++ '\n' :: rest) = cs :: cutFrom (.head false) rest := by
  induction passes with
  | nil => exact if_pos ⟨rfl, opened⟩
  | cons whole _ ih =>
    rw [List.cons_append, cutFrom, if_neg whole, ih opened]
    rfl

end Passes

/-! ## The line of a point is not cut -/

/-- A text without quotes stays in its part of the line, where only the bare character `stop` would
lead on. -/
theorem passes_escaped (zone : Bool → Zone) {stop : Char} {onward : Zone} {special cs : List Char}
    (next : ∀ escaped c, (zone escaped).next c =
      if c = stop ∧ escaped = false then onward else zone (c = '\\'))
    (stops : stop ∈ special) (noBackslash : '\\' ∉ special) (text : Unquoted cs) (escaped : Bool)
    (plain : cs = [] → escaped = false) :
    Passes (zone escaped) (PointRelay.escaped special cs) (zone false) := by
  have ordinary : ∀ escaped c, c ≠ stop → (zone escaped).next c = zone (c = '\\') :=
    fun escaped c other => (next escaped c).trans (if_neg fun leads => other leads.1)
  have deprived : ∀ c, (zone true).next c = zone (c = '\\') :=
    fun c => (next true c).trans (if_neg fun leads => Bool.noConfusion leads.2)
  induction cs generalizing escaped with
  | nil =>
    rw [plain rfl]
    exact .nil _
  | cons c cs ih =>
    have one_line : c ≠ '\n' := by
      rintro rfl
      exact text.one_line List.mem_cons_self
    have last : cs = [] → decide (c = '\\') = false := by
      rintro rfl
      exact decide_eq_false fun escapes => text.no_escape (congrArg some escapes)
    have tail := ih text.tail (c = '\\') last
    rw [escaped_cons]
    by_cases meant : c ∈ special
    · have backslash : '\\' ≠ stop := by
        rintro rfl
        exact noBackslash stops
      rw [if_pos meant]
      exact .step (by decide) (ordinary escaped '\\' backslash)
        (.step one_line (deprived c) tail)
    · have other : c ≠ stop := by
        rintro rfl
        exact meant stops
      rw [if_neg meant]
      exact .step one_line (ordinary escaped c other) tail

theorem passes_head {cs special : List Char} (stops : ' ' ∈ special) (noBackslash : '\\' ∉ special)
    (text : Unquoted cs) : Passes (.head false) (escaped special cs) (.head false) :=
  passes_escaped .head (fun _ _ => rfl) stops noBackslash text false fun _ => rfl

theorem passes_key {cs : List Char} (text : Unquoted cs) :
    Passes (.key false) (escaped keySpecial cs) (.key false) :=
  passes_escaped .key (fun _ _ => rfl) (by decide) (by decide) text false fun _ => rfl

/-- A quoted text holds no quote that would end it, and its line breaks do not cut. -/
theorem passes_quoted (cs : List Char) :
    Passes (.quoted false) (escaped quotedSpecial cs) (.quoted false) := by
  have inside : ∀ escaped c cs, Passes ((Zone.quoted escaped).next c) cs (.quoted false) →
      Passes (.quoted escaped) (c :: cs) (.quoted false) :=
    fun _ _ _ later => .cons (fun cut => Bool.noConfusion cut.2) later
  induction cs with
  | nil => exact .nil _
  | cons c cs ih =>
    rw [escaped_cons]
    by_cases meant : c ∈ quotedSpecial
    · rw [if_pos meant]
      exact inside false '\\' _ (inside true c _ ih)
    · rw [if_neg meant]
      have quote : c ≠ '"' := by
        rintro rfl
        exact meant (by decide)
      have backslash : c ≠ '\\' := by
        rintro rfl
        exact meant (by decide)
      have next : (Zone.quoted false).next c = .quoted false := by
        rw [Zone.next, if_neg quote, decide_eq_false backslash]
      exact inside false c _ (by rwa [next])

theorem passes_begun {cs : List Char} (bare : ∀ c ∈ cs, isBare c = true) :
    Passes (.value true) cs (.value true) := by
  induction cs with
  | nil => exact .nil _
  | cons c cs ih =>
    obtain ⟨first, later⟩ := List.forall_mem_cons.mp bare
    exact .bare first (fun _ => rfl) (ih later)

theorem passes_bare {cs : List Char} (bare : ∀ c ∈ cs, isBare c = true)
    (unquoted : cs.head? ≠ some '"') (some_char : cs ≠ []) :
    Passes (.value false) cs (.value true) := by
  obtain ⟨c, cs, rfl⟩ := List.exists_cons_of_ne_nil some_char
  obtain ⟨first, later⟩ := List.forall_mem_cons.mp bare
  have no_quote : c ≠ '"' := fun quote => unquoted (congrArg some quote)
  exact .bare first (fun quote => absurd quote no_quote) (passes_begun later)

theorem passes_fieldValue {v : FieldValue} (storable : Storable v) :
    Passes (.value false) (fieldValue v) (.value true) := by
  by_cases text : ∃ s, v = .string s
  · obtain ⟨s, rfl⟩ := text
    refine .step (by decide) rfl ((passes_quoted s.toList).append ?_)
    exact .step (by decide) rfl (.nil _)
  · obtain ⟨bare, unquoted, some_char⟩ := bare_fieldValue storable (not_exists.mp text)
    exact passes_bare bare unquoted some_char

theorem passes_field {f : String × FieldValue} (key : Unquoted f.1.toList)
    (value : Storable f.2) : Passes (.key false) (field f) (.value true) :=
  (passes_key key).append (.step (by decide) rfl (passes_fieldValue value))

theorem passes_tag {t : String × String} (key : Unquoted t.1.toList)
    (value : Unquoted t.2.toList) : Passes (.head false) (tag t) (.head false) := by
  refine .step (by decide) rfl ((passes_head (by decide) (by decide) key).append ?_)
  exact .step (by decide) rfl (passes_head (by decide) (by decide) value)

/-- What passes from a zone back to it does so any number of times. -/
theorem passes_flatMap {α : Type} {z : Zone} {write : α → List Char} {as : List α}
    (each : ∀ a ∈ as, Passes z (write a) z) : Passes z (as.flatMap write) z := by
  induction as with
  | nil => exact .nil z
  | cons a as ih =>
    obtain ⟨first, later⟩ := List.forall_mem_cons.mp each
    exact first.append (ih later)

theorem passes_commas {fs : List (String × FieldValue)} (some_field : fs ≠ [])
    (texts : ∀ f ∈ fs, Unquoted f.1.toList ∧ Storable f.2) :
    Passes (.key false) (commas (fs.map field)) (.value true) := by
  obtain ⟨f, fs, rfl⟩ := List.exists_cons_of_ne_nil some_field
  obtain ⟨first, later⟩ := List.forall_mem_cons.mp texts
  rw [List.map_cons, commas_cons, List.flatMap_map]
  refine (passes_field first.1 first.2).append (passes_flatMap fun g mem => ?_)
  exact .step (by decide) rfl (passes_field (later g mem).1 (later g mem).2)

theorem passes_time {cs : List Char} (one_line : '\n' ∉ cs) : Passes .time cs .time := by
  induction cs with
  | nil => exact .nil _
  | cons c cs ih =>
    obtain ⟨first, later⟩ := List.ne_and_not_mem_of_not_mem_cons one_line
    exact .step first.symm rfl (ih later)

theorem passes_ofPoint {p : Point} (writable : p.Writable) :
    Passes (.head false) (ofPoint p) .time := by
  have name : Passes (.head false) (escaped nameSpecial p.measurement.toList) (.head false) :=
    passes_head (by decide) (by decide) writable.name
  have tags : Passes (.head false) (p.tags.entries.flatMap tag) (.head false) :=
    passes_flatMap fun t mem => passes_tag (writable.tags t mem).1 (writable.tags t mem).2
  have fields : Passes (.head false) (' ' :: commas (p.fields.entries.map field)) (.value true) :=
    .step (by decide) rfl (passes_commas writable.some_field writable.fields)
  have one_line : '\n' ∉ (toString p.timestampNs).toList := fun mem =>
    (isNumeric_of_mem_toString mem).ne (by decide) (by decide) (by decide) rfl
  have time : Passes (.value true) (' ' :: (toString p.timestampNs).toList) .time :=
    .step (by decide) rfl (passes_time one_line)
  exact ((name.append tags).append fields).append time

/-! ## What the store looks at -/

theorem cutFrom_body {ps : List Point} (writable : ∀ p ∈ ps, p.Writable) :
    cutFrom (.head false) (ps.flatMap fun p => ofPoint p ++ ['\n']) = ps.map ofPoint ++ [[]] := by
  induction ps with
  | nil => rfl
  | cons p ps ih =>
    obtain ⟨first, later⟩ := List.forall_mem_cons.mp writable
    rw [List.flatMap_cons, List.append_assoc, List.singleton_append,
      (passes_ofPoint first).cutFrom_append rfl, ih later]
    rfl

/-- The first character of the name, or the backslash before it, is the first of the line. -/
theorem isSeen_ofPoint {p : Point} (named : p.measurement ≠ "") :
    isSeen (ofPoint p) = !beginsComment p.measurement := by
  obtain ⟨c, cs, name⟩ : ∃ c cs, p.measurement.toList = c :: cs :=
    List.exists_cons_of_ne_nil fun empty => named (String.toList_eq_nil_iff.mp empty)
  have line : (ofPoint p).head? = some (if c ∈ nameSpecial then '\\' else c) := by
    rw [ofPoint, name, escaped_cons]
    by_cases meant : c ∈ nameSpecial
    · rw [if_pos meant, if_pos meant]
      rfl
    · rw [if_neg meant, if_neg meant]
      rfl
  rw [isSeen, line, beginsComment, name]
  by_cases meant : c ∈ nameSpecial
  · have other : c ≠ '#' := by
      rintro rfl
      exact absurd meant (by decide)
    simp [meant, other]
  · simp [meant]

theorem seen_body {b : Batch} (writable : ∀ p ∈ b.points, p.Writable)
    (named : ∀ p ∈ b.points, p.measurement ≠ "") :
    seen b.body = (b.points.filter fun p => !beginsComment p.measurement).map Point.line := by
  have last : [([] : List Char)].filter isSeen = [] := rfl
  have points : b.points.filter (isSeen ∘ ofPoint) =
      b.points.filter fun p => !beginsComment p.measurement :=
    List.filter_congr fun p mem => isSeen_ofPoint (named p mem)
  rw [seen, Batch.body, String.toList_ofList, cutFrom_body writable, List.filter_append, last,
    List.append_nil, List.filter_map, List.map_map, points]
  rfl

end Line

theorem Record.named_of_faultless {r : Record} (faultless : r.faults = []) : r.name ≠ "" := by
  intro empty
  rw [faults, if_pos empty] at faultless
  exact List.cons_ne_nil _ _ faultless

/-- The store looks at the lines of the records whose names begin otherwise than with a number sign,
so it sees as many points as there are records, and as many as the report of a write counts, exactly
when no name begins with one. -/
theorem store_sees_records_not_commented {settings : Settings} {records : List Record} {b : Batch}
    (encoded : Batch.encode settings records = .ok b) :
    Line.seen b.body =
      (records.filter fun r => !Line.beginsComment r.name).map (fun r => r.toPoint.line) ∧
    ((Line.seen b.body).length = records.length ↔
      ∀ r ∈ records, Line.beginsComment r.name = false) ∧
    ∀ {φ τ ω : Type} [Transport τ ω] [Factory φ τ ω] (o : Output φ τ ω) (report : Report),
      (o.write records).1 = .ok report →
        ((Line.seen b.body).length = report.points ↔
          ∀ r ∈ records, Line.beginsComment r.name = false) := by
  have writable := Batch.writable_of_encode encoded
  obtain ⟨rfl, faultless⟩ := Batch.encode_ok encoded
  have named : ∀ p ∈ records.map Record.toPoint, p.measurement ≠ "" := by
    rintro p mem
    obtain ⟨r, among, rfl⟩ := List.mem_map.mp mem
    exact Record.named_of_faultless (faultless r among)
  have lines : Line.seen (Batch.body ⟨settings, records.map Record.toPoint⟩) =
      (records.filter fun r => !Line.beginsComment r.name).map (fun r => r.toPoint.line) := by
    rw [Line.seen_body writable named, List.filter_map, List.map_map]
    rfl
  have count : (Line.seen (Batch.body ⟨settings, records.map Record.toPoint⟩)).length =
      records.length ↔ ∀ r ∈ records, Line.beginsComment r.name = false := by
    rw [lines, List.length_map, List.length_filter_eq_length_iff]
    simp only [Bool.not_eq_true']
  refine ⟨lines, count, ?_⟩
  intro φ τ ω _ _ o report written
  rw [Output.points_of_write written]
  exact count

/-- A record whose name begins with a number sign. -/
def commented : Record := (Record.new "#cpu" ⟨0, 0⟩).withField "v" (.integer 1)

/-- A record with a line break, a number sign and a quote in a value. -/
def remark : Record := (Record.new "cpu" ⟨0, 0⟩).withField "v" (.string "one\n#two\"\n")

/-- An output with a member that takes every batch. -/
def willing : Output Prepared Scripted Unit :=
  .new ⟨"db", "", ""⟩ ⟨[.ok [Scripted.healthy "a"]], 0⟩ () []

theorem store_sees_one_record_of_two :
    Batch.encode ⟨"db", "", ""⟩ [commented, remark] =
      .ok ⟨⟨"db", "", ""⟩, [commented.toPoint, remark.toPoint]⟩ ∧
    (willing.write [commented, remark]).1 = .ok ⟨some "a", 1, 2⟩ ∧
    Line.seen (Batch.body ⟨⟨"db", "", ""⟩, [commented.toPoint, remark.toPoint]⟩) =
      [remark.toPoint.line] ∧
    (Line.seen (Batch.body ⟨⟨"db", "", ""⟩, [commented.toPoint, remark.toPoint]⟩)).length ≠ 2 := by
  have encoded : Batch.encode ⟨"db", "", ""⟩ [commented, remark] =
      .ok ⟨⟨"db", "", ""⟩, [commented.toPoint, remark.toPoint]⟩ := by rfl
  have written : (willing.write [commented, remark]).1 = .ok ⟨some "a", 1, 2⟩ := by rfl
  obtain ⟨lines, -, reported⟩ := store_sees_records_not_commented encoded
  refine ⟨encoded, written, lines, fun all => ?_⟩
  exact absurd ((reported willing _ written).mp all commented List.mem_cons_self) (by decide)

/-- A write tells of one point, and the store sees none. -/
theorem commented_record_is_counted_and_not_seen :
    Batch.encode ⟨"db", "", ""⟩ [commented] = .ok ⟨⟨"db", "", ""⟩, [commented.toPoint]⟩ ∧
    Batch.body ⟨⟨"db", "", ""⟩, [commented.toPoint]⟩ = "#cpu v=1i 0\n" ∧
    Line.seen "#cpu v=1i 0\n" = [] ∧
    (willing.write [commented]).1 = .ok ⟨some "a", 1, 1⟩ :=
  ⟨by rfl, by rfl, by rfl, by rfl⟩

end PointRelay
