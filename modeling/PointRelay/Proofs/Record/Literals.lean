import PointRelay.Proofs.Point.Faults
import PointRelay.Record.Reader

/-!
# Integer literals in fields

A field that a line writes as an integer literal is an integer only within the ranges of 64-bit
integers. Below them, above them and for a negative zero it is a double, which encodes as a float;
between the signed and the unsigned range it is an integer that cannot be encoded.
-/

namespace PointRelay

open Decimal Time

namespace Json.Literal

/-- No point and no exponent. -/
def IsInteger (l : Literal) : Prop := l.fraction = none ∧ l.exponent = none

/-- The number that an integer literal writes. -/
def written (l : Literal) : Int :=
  if l.negative then -(digitsValue l.whole : Int) else digitsValue l.whole

/-- The number is kept as an integer: 64 bits hold it, and it is no negative zero. -/
def Kept (l : Literal) : Prop :=
  -9223372036854775808 ≤ l.written ∧ l.written ≤ 18446744073709551615 ∧
    ¬ (l.negative = true ∧ l.written = 0)

theorem value?_of_kept {l : Literal} (integer : l.IsInteger) (kept : l.Kept) :
    l.value? = some (.integer l.written) := by
  obtain ⟨low, high, no_zero⟩ := kept
  unfold value? written at *
  rw [integer.1, integer.2]
  cases sign : l.negative <;> simp_all
  omega

theorem value?_of_lost {l : Literal} (lost : ¬ (l.IsInteger ∧ l.Kept)) :
    l.value? = l.double?.map .double := by
  unfold IsInteger Kept written at lost
  unfold value?
  by_cases integer : l.fraction = none ∧ l.exponent = none
  · cases sign : l.negative <;> simp_all <;> omega
  · have fractional : (l.fraction.isNone && l.exponent.isNone) = false := by
      rwa [← Bool.not_eq_true, Bool.and_eq_true_iff, Option.isNone_iff_eq_none,
        Option.isNone_iff_eq_none]
    simp [fractional]

theorem bounds_of_value? {l : Literal} {n : Int} (valued : l.value? = some (.integer n)) :
    -9223372036854775808 ≤ n ∧ n ≤ 18446744073709551615 := by
  by_cases kept : l.IsInteger ∧ l.Kept
  · rw [value?_of_kept kept.1 kept.2] at valued
    obtain rfl := Number.integer.inj (Option.some.inj valued)
    exact ⟨kept.2.1, kept.2.2.1⟩
  · rw [value?_of_lost kept] at valued
    obtain ⟨v, -, other⟩ := Option.map_eq_some_iff.mp valued
    cases other

end Json.Literal

namespace Record

theorem pairs?_cons {α : Type} {f : Json → Option α} {m : Option String × Json}
    {rest : List (Option String × Json)} {ps : List (String × α)}
    (read : pairs? α f (m :: rest) = some ps) :
    ∃ k v later, m.1 = some k ∧ f m.2 = some v ∧ pairs? α f rest = some later ∧
      ps = (k, v) :: later := by
  obtain ⟨key, j⟩ := m
  simp only [pairs?, Option.bind_eq_bind, Option.bind_eq_some_iff] at read
  obtain ⟨k, key, v, value, later, others, made⟩ := read
  exact ⟨k, v, later, key, value, others, (Option.some.inj made).symm⟩

/-- Members without a key make pairs without it. -/
theorem pairs?_without {α : Type} {f : Json → Option α} {key : String}
    {members : List (Option String × Json)} {ps : List (String × α)}
    (read : pairs? α f members = some ps) (without : ∀ m ∈ members, m.1 ≠ some key) :
    ∀ e ∈ ps, e.1 ≠ key := by
  induction members generalizing ps with
  | nil =>
    obtain rfl := Option.some.inj read
    exact fun _ mem => nomatch mem
  | cons m rest ih =>
    obtain ⟨k, v, later, named, -, others, rfl⟩ := pairs?_cons read
    obtain ⟨other, without⟩ := List.forall_mem_cons.mp without
    refine List.forall_mem_cons.mpr ⟨?_, ih others without⟩
    rintro rfl
    exact other named

/-- The last member of a key gives the value of the key. -/
theorem find?_of_pairs? {α : Type} {f : Json → Option α} {key : String} {j : Json}
    {before after : List (Option String × Json)} {ps : List (String × α)}
    (read : pairs? α f (before ++ (some key, j) :: after) = some ps)
    (last : ∀ m ∈ after, m.1 ≠ some key) :
    ∃ v, f j = some v ∧ (Dict.ofList ps).find? key = some v := by
  obtain ⟨early, v, late, value, others, rfl⟩ : ∃ early v late, f j = some v ∧
      (∀ e ∈ late, e.1 ≠ key) ∧ ps = early ++ (key, v) :: late := by
    induction before generalizing ps with
    | nil =>
      obtain ⟨k, v, later, named, value, behind, rfl⟩ := pairs?_cons read
      obtain rfl := Option.some.inj named
      exact ⟨[], v, later, value, pairs?_without behind last, rfl⟩
    | cons m rest ih =>
      obtain ⟨k, w, later, -, -, behind, rfl⟩ := pairs?_cons read
      obtain ⟨early, v, late, value, others, rfl⟩ := ih behind
      exact ⟨(k, w) :: early, v, late, value, others, rfl⟩
  exact ⟨v, value, Dict.find?_ofList others⟩

/-- The number that a line writes for a field: that of the last member with its key in the object of
fields. -/
def literal? (line key : String) : Option Json.Literal := do
  match ← (← Json.read? line).slots? ["name", "tags", "fields", "timestamp"] with
  | [_, _, some (.object members), _] =>
    match Json.find? members key with
    | some (.number l) => some l
    | _ => none
  | _ => none

/-- The members before and behind the last one of a name. -/
theorem exists_of_find? {members : List (Option String × Json)} {key : String} {j : Json}
    (found : Json.find? members key = some j) :
    ∃ before after, members = before ++ (some key, j) :: after ∧ ∀ m ∈ after, m.1 ≠ some key := by
  obtain ⟨⟨k, i⟩, there, rfl⟩ := Option.map_eq_some_iff.mp found
  obtain ⟨named, late, early, order, others⟩ := List.find?_eq_some_iff_append.mp there
  obtain rfl : k = some key := by simpa using named
  refine ⟨early.reverse, late.reverse, ?_, fun m mem => ?_⟩
  · rw [← List.reverse_reverse members, order, List.reverse_append, List.reverse_cons,
      List.append_assoc]
    rfl
  · simpa using others m (List.mem_reverse.mp mem)

/-- A field that a line writes as a number has the value of the literal. -/
theorem find?_of_literal? {line key : String} {l : Json.Literal} {w : Written}
    (writes : literal? line key = some l) (read : readLine? line = some w) :
    ∃ v, Value.ofJson? (.number l) = some v ∧ w.fields.find? key = some v := by
  simp only [literal?, Option.bind_eq_bind, Option.bind_eq_some_iff] at writes
  obtain ⟨j, text, slots, filled, writes⟩ := writes
  split at writes
  · rename_i name tags members timestamp
    split at writes
    · rename_i i found
      obtain rfl := Option.some.inj writes
      obtain ⟨before, after, rfl, last⟩ := exists_of_find? found
      simp only [readLine?, text, Option.bind_eq_bind, Option.bind_some, ofJson?, filled,
        Option.bind_eq_some_iff] at read
      obtain ⟨_, -, _, -, _, -, fields, valued, _, -, made⟩ := read
      obtain rfl := Option.some.inj made
      unfold fields? at valued
      simp only at valued
      split at valued
      · cases valued
      · obtain ⟨ps, pairs, rfl⟩ := Option.map_eq_some_iff.mp valued
        exact find?_of_pairs? pairs last
    · cases writes
  · cases writes

section
variable {line key : String} {l : Json.Literal} {w : Written}

theorem find?_of_kept (writes : literal? line key = some l) (integer : l.IsInteger) (kept : l.Kept)
    (read : readLine? line = some w) : w.fields.find? key = some (.integer l.written) := by
  obtain ⟨value, valued, found⟩ := find?_of_literal? writes read
  rw [Value.ofJson?, Json.Literal.value?_of_kept integer kept] at valued
  obtain rfl := Option.some.inj valued
  exact found

theorem find?_of_lost (writes : literal? line key = some l) (lost : ¬ l.Kept)
    (read : readLine? line = some w) :
    ∃ v, l.double? = some v ∧ w.fields.find? key = some (.double v) := by
  obtain ⟨value, valued, found⟩ := find?_of_literal? writes read
  rw [Value.ofJson?, Json.Literal.value?_of_lost fun both => lost both.2, Option.map_map] at valued
  obtain ⟨v, double, rfl⟩ := Option.map_eq_some_iff.mp valued
  exact ⟨v, double, found⟩

end

/-- A pair is made of a member. -/
theorem exists_of_mem_pairs? {α : Type} {f : Json → Option α}
    {members : List (Option String × Json)} {ps : List (String × α)}
    (read : pairs? α f members = some ps) {e : String × α} (mem : e ∈ ps) :
    ∃ j, f j = some e.2 := by
  induction members generalizing ps with
  | nil =>
    obtain rfl := Option.some.inj read
    cases mem
  | cons m rest ih =>
    obtain ⟨k, v, later, -, value, others, rfl⟩ := pairs?_cons read
    rcases List.mem_cons.mp mem with rfl | mem
    · exact ⟨m.2, value⟩
    · exact ih others mem

theorem exists_of_integer {j : Json} {n : Int} (valued : Value.ofJson? j = some (.integer n)) :
    ∃ l : Json.Literal, l.value? = some (.integer n) := by
  cases j with
  | number l =>
    rw [Value.ofJson?] at valued
    obtain ⟨m | v, number, same⟩ := Option.map_eq_some_iff.mp valued
    · obtain rfl := Value.integer.inj same
      exact ⟨l, number⟩
    · cases same
  | null => cases valued
  | bool b => cases valued
  | string s =>
    rw [Value.ofJson?] at valued
    obtain ⟨_, -, same⟩ := Option.map_eq_some_iff.mp valued
    cases same
  | array items =>
    rw [Value.ofJson?] at valued
    obtain ⟨_, -, same⟩ := Option.map_eq_some_iff.mp valued
    cases same
  | object members =>
    rw [Value.ofJson?] at valued
    obtain ⟨_, -, same⟩ := Option.map_eq_some_iff.mp valued
    cases same

/-- The records of lines hold integers of 64 bits, and times of the clock that shows the present
one. -/
theorem native_of_readLine? {line : String} {w : Written} (read : readLine? line = some w)
    (now : Instant) : (w.at now).Native ∧ (now.OnClock → (w.at now).timestamp.OnClock) := by
  simp only [readLine?, Option.bind_eq_bind, Option.bind_eq_some_iff, ofJson?] at read
  obtain ⟨j, -, slots, -, read⟩ := read
  split at read
  · simp only [Option.bind_eq_some_iff] at read
    obtain ⟨_, -, _, -, _, -, members, -, fields, valued, time, timed, made⟩ := read
    obtain rfl := Option.some.inj made
    refine ⟨fun key n mem => ?_, ?_⟩
    · unfold fields? at valued
      split at valued
      · split at valued
        · cases valued
        · obtain ⟨ps, pairs, rfl⟩ := Option.map_eq_some_iff.mp valued
          obtain ⟨i, value⟩ := exists_of_mem_pairs? pairs (Dict.mem_of_mem_ofList mem)
          obtain ⟨l, number⟩ := exists_of_integer value
          exact Json.Literal.bounds_of_value? number
      · cases valued
    · intro clock
      cases time with
      | none => exact clock
      | some t =>
        unfold orElse at timed
        split at timed
        · cases timed
        · simp only [Option.bind_eq_some_iff] at timed
          obtain ⟨_, -, u, found, same⟩ := timed
          obtain rfl := Option.some.inj (Option.some.inj same)
          exact Stamp.onClock_read? found
  · cases read

/-- The value of a field without a fault is carried to the point. -/
theorem find?_of_encode {r : Record} {key : String} {value : Value} {v : FieldValue} {p : Point}
    (found : r.fields.find? key = some value) (carried : FieldValue.ofValue? value = some v)
    (encoded : r.encode = .ok p) : p.fields.find? key = some v := by
  obtain ⟨-, rfl⟩ := encode_ok encoded
  exact Dict.find?_filterMap found carried

theorem overflow_of_find? {r : Record} {key : String} {n : Int}
    (found : r.fields.find? key = some (.integer n)) (above : 9223372036854775807 < n) :
    .integerOverflow key n ∈ r.faults := by
  have fault : .integerOverflow key n ∈ Fault.ofField (key, .integer n) := by
    refine List.mem_append_right _ ?_
    rw [Fault.ofValue, if_pos (by omega)]
    exact List.mem_singleton_self _
  have among : .integerOverflow key n ∈ r.fields.entries.flatMap Fault.ofField :=
    List.mem_flatMap.mpr ⟨_, Dict.mem_of_find? found, fault⟩
  exact List.mem_append_left _ (List.mem_append_right _ among)

theorem encode_of_mem_faults {r : Record} {f : Fault} (mem : f ∈ r.faults) :
    ∃ g, r.encode = .error g := by
  rw [encode]
  cases faults : r.faults with
  | nil =>
    rw [faults] at mem
    cases mem
  | cons g rest => exact ⟨g, rfl⟩

/-! ## The literals of one field -/

/-- A field that a line writes as an integer literal is encoded as that integer exactly when a signed
64-bit integer holds the number and it is no negative zero. Beyond that range a number that an
unsigned 64-bit integer holds keeps the record from being encoded; any other is encoded as the double
of the literal. -/
theorem integer_literal_is_encoded_iff_held {line key : String} {l : Json.Literal} {w : Written}
    (writes : literal? line key = some l) (integer : l.IsInteger) (read : readLine? line = some w)
    (now : Instant) :
    (∀ p, (w.at now).encode = .ok p → (p.fields.find? key = some (.integer l.written) ↔
      Instant.Fits l.written ∧ ¬ (l.negative = true ∧ l.written = 0))) ∧
    (9223372036854775807 < l.written → l.written ≤ 18446744073709551615 →
      .integerOverflow key l.written ∈ (w.at now).faults ∧
        ∃ f, (w.at now).encode = .error f) ∧
    (¬ l.Kept → ∃ v, l.double? = some v ∧
      ∀ p, (w.at now).encode = .ok p → p.fields.find? key = some (.float v)) := by
  by_cases kept : l.Kept
  · have found : (w.at now).fields.find? key = some (.integer l.written) :=
      find?_of_kept writes integer kept read
    have ⟨low, _, no_zero⟩ := kept
    refine ⟨fun p encoded => ⟨fun _ => ⟨⟨low, ?_⟩, no_zero⟩, fun _ =>
      find?_of_encode found rfl encoded⟩, fun above _ => ?_, fun lost => absurd kept lost⟩
    · by_contra above
      obtain ⟨f, refused⟩ := encode_of_mem_faults (overflow_of_find? found (by omega))
      rw [refused] at encoded
      cases encoded
    · have overflow := overflow_of_find? found above
      exact ⟨overflow, encode_of_mem_faults overflow⟩
  · obtain ⟨v, double, found⟩ := find?_of_lost writes kept read
    have carried : ∀ p, (w.at now).encode = .ok p → p.fields.find? key = some (.float v) :=
      fun p encoded => find?_of_encode (r := w.at now) found rfl encoded
    refine ⟨fun p encoded => ⟨fun same => ?_, fun held => ?_⟩, fun above below => ?_,
      fun _ => ⟨v, double, carried⟩⟩
    · rw [carried p encoded] at same
      cases same
    · obtain ⟨⟨low, high⟩, no_zero⟩ := held
      exact absurd ⟨low, by omega, no_zero⟩ kept
    · exact absurd ⟨by omega, below, fun zero => by omega⟩ kept

/-- A line with one field that is written as a number. -/
def oneNumber (digits : String) : String :=
  "\x7b\"name\":\"c\",\"fields\":\x7b\"v\":" ++ digits ++ "\x7d\x7d"

/-- The largest integer that is encoded as one. -/
theorem largest_literal_is_encoded :
    literal? (oneNumber "9223372036854775807") "v" =
      some ⟨false, "9223372036854775807".toList, none, none⟩ ∧
    ∃ w p, readLine? (oneNumber "9223372036854775807") = some w ∧
      (w.at ⟨0, 0⟩).encode = .ok p ∧
      p.fields.find? "v" = some (.integer 9223372036854775807) := by
  have writes : literal? (oneNumber "9223372036854775807") "v" =
      some ⟨false, "9223372036854775807".toList, none, none⟩ := by decide +kernel
  have encodable : ((readLine? (oneNumber "9223372036854775807")).bind fun w =>
      (w.at ⟨0, 0⟩).encode.toOption).isSome := by decide +kernel
  obtain ⟨p, made⟩ := Option.isSome_iff_exists.mp encodable
  obtain ⟨w, read, made⟩ := Option.bind_eq_some_iff.mp made
  have encoded : (w.at ⟨0, 0⟩).encode = .ok p := by
    cases answer : (w.at ⟨0, 0⟩).encode with
    | ok q =>
      rw [answer] at made
      exact congrArg _ (Option.some.inj made)
    | error e =>
      rw [answer] at made
      cases made
  have held := integer_literal_is_encoded_iff_held writes ⟨rfl, rfl⟩ read ⟨0, 0⟩
  exact ⟨writes, w, p, read, encoded, (held.1 p encoded).mpr (by decide +kernel)⟩

/-- The smallest number that is above all 64-bit integers is encoded, as a float. -/
theorem literal_above_all_integers_is_encoded_as_float :
    ∃ l : Json.Literal, literal? (oneNumber "18446744073709551616") "v" = some l ∧ l.IsInteger ∧
      l.written = 18446744073709551616 ∧
      ((readLine? (oneNumber "18446744073709551616")).map fun w =>
        (w.at ⟨0, 0⟩).encode.toOption.map fun p => p.fields.entries) =
        some (some [("v", .float ⟨0x43F0000000000000⟩)]) :=
  ⟨⟨false, "18446744073709551616".toList, none, none⟩, by decide +kernel, ⟨rfl, rfl⟩,
    by decide +kernel, by decide +kernel⟩

end Record

end PointRelay
