import PointRelay.Proofs.Point.Encoding

/-!
# Batches read back

An encoded batch is written so that the reader of the line protocol finds its points again, in
order. The encoder's rules are what makes this so: no name holds a line break or ends in a
backslash, every point has a field, and every float is finite.
-/

namespace PointRelay

namespace Line

/-! ## Sequences -/

/-- A sequence of items is read back when each item is, in front of whatever may follow it. -/
theorem many?_flatMap {α : Type} {begins : Char → Bool}
    {item? : List Char → Option (α × List Char)} {write : α → List Char}
    (May : List Char → Prop) {as : List α} {rest : List Char}
    (reads : ∀ a ∈ as, ∀ tail, May tail → item? (write a ++ tail) = some (a, tail))
    (starts : ∀ a ∈ as, ∃ c r, write a = c :: r ∧ begins c = true)
    (keeps : ∀ a ∈ as, ∀ tail, May (write a ++ tail))
    (stop : ∀ c ∈ rest.head?, begins c = false) (may : May rest) :
    many? begins item? (as.flatMap write ++ rest) = some (as, rest) := by
  induction as with
  | nil =>
    cases rest with
    | nil => rw [List.flatMap_nil, List.append_nil, many?]
    | cons c r =>
      have hc := stop c rfl
      rw [List.flatMap_nil, List.nil_append, many?, hc]
      rfl
  | cons a as ih =>
    have tail := ih (fun b hb => reads b (List.mem_cons_of_mem a hb))
      (fun b hb => starts b (List.mem_cons_of_mem a hb))
      (fun b hb => keeps b (List.mem_cons_of_mem a hb))
    have follows : May (as.flatMap write ++ rest) := by
      cases as with
      | nil => exact may
      | cons b bs =>
        rw [List.flatMap_cons, List.append_assoc]
        exact keeps b (List.mem_cons_of_mem a List.mem_cons_self) _
    obtain ⟨c, r, front, hc⟩ := starts a List.mem_cons_self
    have read := reads a List.mem_cons_self _ follows
    rw [List.flatMap_cons, List.append_assoc]
    rw [front, List.cons_append] at read ⊢
    rw [many?, if_pos hc, read]
    have shorter : (as.flatMap write ++ rest).length <
        (c :: (r ++ (as.flatMap write ++ rest))).length := by
      simp only [List.length_append, List.length_cons]
      omega
    simp only [dif_pos shorter, tail]
    rfl

/-! ## Tags and fields -/

theorem tag?_tag {t : String × String} (key : Unquoted t.1.toList) (value : Unquoted t.2.toList)
    {rest : List Char} (ends : Ends keySpecial rest) : tag? (tag t ++ rest) = some (t, rest) := by
  have written : tag t ++ rest = ',' :: (escaped keySpecial t.1.toList ++
      '=' :: (escaped keySpecial t.2.toList ++ rest)) := by
    simp [tag]
  have equals : Ends keySpecial ('=' :: (escaped keySpecial t.2.toList ++ rest)) := by
    intro c hc
    obtain rfl : '=' = c := Option.some.inj hc
    exact Or.inl (by decide)
  rw [written, tag?, part_escaped (by decide) key equals]
  simp only [part_escaped (by decide) value ends, String.ofList_toList]

theorem field?_field {f : String × FieldValue} (key : Unquoted f.1.toList)
    (value : Storable f.2) {rest : List Char} (ends : EndsBare rest) :
    field? (field f ++ rest) = some (f, rest) := by
  have written : field f ++ rest =
      escaped keySpecial f.1.toList ++ '=' :: (fieldValue f.2 ++ rest) := by
    simp [field]
  have equals : Ends keySpecial ('=' :: (fieldValue f.2 ++ rest)) := by
    intro c hc
    obtain rfl : '=' = c := Option.some.inj hc
    exact Or.inl (by decide)
  rw [written, field?, part_escaped (by decide) key equals]
  simp only [value?_fieldValue value ends, String.ofList_toList]
  rfl

theorem commas_cons (x : List Char) (xs : List (List Char)) :
    commas (x :: xs) = x ++ xs.flatMap (',' :: ·) := by
  induction xs generalizing x with
  | nil => simp [commas]
  | cons y ys ih =>
    rw [commas, ih]
    · simp
    · simp

/-- Text behind a space or a comma, or no text, follows any part. -/
def Separated (rest : List Char) : Prop := ∀ c ∈ rest.head?, c = ',' ∨ c = ' '

theorem Separated.ends {rest : List Char} (h : Separated rest) : Ends keySpecial rest := by
  intro c hc
  rcases h c hc with rfl | rfl
  · exact Or.inl (by decide)
  · exact Or.inl (by decide)

theorem Separated.endsBare {rest : List Char} (h : Separated rest) : EndsBare rest := by
  intro c hc
  rcases h c hc with rfl | rfl
  · rfl
  · rfl

theorem separated_cons {c : Char} (h : c = ',' ∨ c = ' ') (rest : List Char) :
    Separated (c :: rest) := by
  intro d hd
  obtain rfl : c = d := Option.some.inj hd
  exact h

theorem many?_tags {ts : List (String × String)}
    (texts : ∀ t ∈ ts, Unquoted t.1.toList ∧ Unquoted t.2.toList) (rest : List Char) :
    many? (· == ',') tag? (ts.flatMap tag ++ ' ' :: rest) = some (ts, ' ' :: rest) := by
  apply many?_flatMap Separated
  · exact fun t ht tail may => tag?_tag (texts t ht).1 (texts t ht).2 may.ends
  · exact fun t _ => ⟨',', _, rfl, rfl⟩
  · exact fun t _ tail => separated_cons (Or.inl rfl) _
  · intro c hc
    obtain rfl : ' ' = c := Option.some.inj hc
    rfl
  · exact separated_cons (Or.inr rfl) rest

theorem fields?_commas {fs : List (String × FieldValue)} (some_field : fs ≠ [])
    (texts : ∀ f ∈ fs, Unquoted f.1.toList ∧ Storable f.2) (rest : List Char) :
    fields? (commas (fs.map field) ++ ' ' :: rest) = some (fs, ' ' :: rest) := by
  obtain ⟨f, fs, rfl⟩ := List.exists_cons_of_ne_nil some_field
  have further : many? (· == ',') furtherField?
      (fs.flatMap (fun f => ',' :: field f) ++ ' ' :: rest) = some (fs, ' ' :: rest) := by
    apply many?_flatMap Separated
    · intro g hg tail may
      have text := texts g (List.mem_cons_of_mem f hg)
      exact field?_field text.1 text.2 may.endsBare
    · exact fun g _ => ⟨',', _, rfl, rfl⟩
    · exact fun g _ tail => separated_cons (Or.inl rfl) _
    · intro c hc
      obtain rfl : ' ' = c := Option.some.inj hc
      rfl
    · exact separated_cons (Or.inr rfl) rest
  have follows : Separated (fs.flatMap (fun f => ',' :: field f) ++ ' ' :: rest) := by
    cases fs with
    | nil => exact separated_cons (Or.inr rfl) rest
    | cons g gs => exact separated_cons (Or.inl rfl) _
  have text := texts f List.mem_cons_self
  have written : commas ((f :: fs).map field) ++ ' ' :: rest =
      field f ++ (fs.flatMap (fun f => ',' :: field f) ++ ' ' :: rest) := by
    rw [List.map_cons, commas_cons, List.flatMap_map, List.append_assoc]
  rw [written, fields?, field?_field text.1 text.2 follows.endsBare]
  simp [further]

/-! ## Points -/

theorem time?_toString (n : Int) (rest : List Char) :
    time? ((toString n).toList ++ '\n' :: rest) = some (n, rest) := by
  have one_line : ∀ c ∈ (toString n).toList, (decide (c ≠ '\n')) = true := by
    intro c hc
    exact decide_eq_true
      ((isNumeric_of_mem_toString hc).ne (by decide) (by decide) (by decide))
  have front : ((toString n).toList ++ '\n' :: rest).takeWhile (· ≠ '\n') =
      (toString n).toList := by
    rw [List.takeWhile_append_of_pos one_line]
    simp
  have back : ((toString n).toList ++ '\n' :: rest).dropWhile (· ≠ '\n') = '\n' :: rest := by
    rw [List.dropWhile_append_of_pos one_line]
    simp
  rw [time?, back, front]
  change (integer? (toString n).toList).map (·, rest) = some (n, rest)
  rw [integer?_toString]
  rfl

/-- A point is read back from its line. -/
theorem point?_ofPoint {p : Point} (writable : p.Writable) (rest : List Char) :
    point? (ofPoint p ++ '\n' :: rest) = some (p, rest) := by
  have written : ofPoint p ++ '\n' :: rest = escaped nameSpecial p.measurement.toList ++
      (p.tags.entries.flatMap tag ++ ' ' :: (commas (p.fields.entries.map field) ++
        ' ' :: ((toString p.timestampNs).toList ++ '\n' :: rest))) := by
    simp [ofPoint]
  have follows : Ends nameSpecial (p.tags.entries.flatMap tag ++
      ' ' :: (commas (p.fields.entries.map field) ++
        ' ' :: ((toString p.timestampNs).toList ++ '\n' :: rest))) := by
    intro c hc
    cases h : p.tags.entries with
    | nil =>
      rw [h] at hc
      obtain rfl : ' ' = c := Option.some.inj hc
      exact Or.inl (by decide)
    | cons t ts =>
      rw [h] at hc
      obtain rfl : ',' = c := Option.some.inj hc
      exact Or.inl (by decide)
  rw [written, point?, part_escaped (by decide) writable.name follows]
  simp only [Option.bind_eq_bind, many?_tags writable.tags, Option.bind_some, spaced?,
    fields?_commas writable.some_field writable.fields, time?_toString, Dict.ofList_entries,
    String.ofList_toList]

theorem read?_body {b : Batch} (writable : ∀ p ∈ b.points, p.Writable) :
    read? b.body = some b.points := by
  have lines : many? (fun _ => true) point?
      (b.points.flatMap (fun p => ofPoint p ++ ['\n']) ++ []) = some (b.points, []) := by
    apply many?_flatMap (fun _ => True)
    · intro p hp tail _
      rw [List.append_assoc]
      exact point?_ofPoint (writable p hp) tail
    · intro p hp
      cases h : ofPoint p ++ ['\n'] with
      | nil => simp at h
      | cons c r => exact ⟨c, r, rfl, rfl⟩
    · exact fun _ _ _ => trivial
    · simp
    · trivial
  rw [List.append_nil] at lines
  rw [read?, Batch.body, String.toList_ofList, lines]
  rfl

end Line

/-- The body of an encoded batch is read as its points, in order, so no two encoded batches with
different points have the same body. -/
theorem encoded_body_reads_back :
    (∀ settings records b, Batch.encode settings records = .ok b →
      Line.read? b.body = some b.points) ∧
    ∀ settings records b settings' records' b', Batch.encode settings records = .ok b →
      Batch.encode settings' records' = .ok b' → b.points ≠ b'.points → b.body ≠ b'.body := by
  have reads : ∀ settings records b, Batch.encode settings records = .ok b →
      Line.read? b.body = some b.points :=
    fun _ _ _ h => Line.read?_body (Batch.writable_of_encode h)
  refine ⟨reads, fun _ _ b _ _ b' h h' differ same => differ ?_⟩
  have both := reads _ _ b h
  rw [same, reads _ _ b' h'] at both
  exact (Option.some.inj both).symm

/-- A record with special characters in all its parts. -/
def thorny (value : Value) : Record :=
  (((Record.new "disk\\,io x" ⟨-1, 5⟩).withTag "a=b" "C:\\tmp").withField "note"
    (.string "say \"hi\",\nv=1 \\o/")).withField "v" value

theorem thorny_body_reads_back :
    Batch.encode ⟨"db", "", ""⟩ [thorny (.integer 1)] =
      .ok ⟨⟨"db", "", ""⟩, [(thorny (.integer 1)).toPoint]⟩ ∧
    Batch.encode ⟨"db", "", ""⟩ [thorny (.double ⟨0x8000000000000000⟩)] =
      .ok ⟨⟨"db", "", ""⟩, [(thorny (.double ⟨0x8000000000000000⟩)).toPoint]⟩ ∧
    Line.read? (Batch.body ⟨⟨"db", "", ""⟩, [(thorny (.integer 1)).toPoint]⟩) =
      some [(thorny (.integer 1)).toPoint] ∧
    Batch.body ⟨⟨"db", "", ""⟩, [(thorny (.integer 1)).toPoint]⟩ ≠
      Batch.body ⟨⟨"db", "", ""⟩, [(thorny (.double ⟨0x8000000000000000⟩)).toPoint]⟩ := by
  have whole : Batch.encode ⟨"db", "", ""⟩ [thorny (.integer 1)] =
      .ok ⟨⟨"db", "", ""⟩, [(thorny (.integer 1)).toPoint]⟩ := by rfl
  have float : Batch.encode ⟨"db", "", ""⟩ [thorny (.double ⟨0x8000000000000000⟩)] =
      .ok ⟨⟨"db", "", ""⟩, [(thorny (.double ⟨0x8000000000000000⟩)).toPoint]⟩ := by rfl
  exact ⟨whole, float, encoded_body_reads_back.1 _ _ _ whole,
    encoded_body_reads_back.2 _ _ _ _ _ _ whole float (by decide)⟩

end PointRelay
