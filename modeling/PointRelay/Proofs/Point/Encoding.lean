import PointRelay.Point.Encoding
import PointRelay.Proofs.Line.Parts

/-!
# Encoded points

A batch is encoded as the points of its records in order, and only when no record has a fault. The
faults that are looked for leave points that a line can carry: no unquoted text holds a line break
or ends in a backslash, every point has a field, and every float is finite.
-/

namespace PointRelay

/-- A point that a line can carry. -/
structure Point.Writable (p : Point) : Prop where
  name : Line.Unquoted p.measurement.toList
  tags : ∀ t ∈ p.tags.entries, Line.Unquoted t.1.toList ∧ Line.Unquoted t.2.toList
  fields : ∀ f ∈ p.fields.entries, Line.Unquoted f.1.toList ∧ Line.Storable f.2
  some_field : p.fields.entries ≠ []

theorem unquoted_of_ofText {s : String} (h : Fault.ofText s = []) : Line.Unquoted s.toList := by
  unfold Fault.ofText at h
  split at h
  · exact absurd h (List.cons_ne_nil _ _)
  · rename_i one_line
    split at h
    · exact absurd h (List.cons_ne_nil _ _)
    · rename_i no_escape
      refine ⟨fun mem => one_line ?_, no_escape⟩
      exact List.any_eq_true.mpr ⟨'\n', mem, by decide⟩

theorem storable_of_ofValue {field : String} {value : Value} {v : FieldValue}
    (h : Fault.ofValue field value = []) (carried : FieldValue.ofValue? value = some v) :
    Line.Storable v := by
  cases value with
  | double x =>
    obtain rfl := Option.some.inj carried
    by_contra infinite
    have : ¬ x.isFinite = true := infinite
    simp [Fault.ofValue, this] at h
  | null => exact absurd carried (by simp [FieldValue.ofValue?])
  | array items => exact absurd carried (by simp [FieldValue.ofValue?])
  | object members => exact absurd carried (by simp [FieldValue.ofValue?])
  | bool b => obtain rfl := Option.some.inj carried; trivial
  | integer n => obtain rfl := Option.some.inj carried; trivial
  | string s => obtain rfl := Option.some.inj carried; trivial

/-- A value without a fault is carried. -/
theorem isSome_ofValue? {field : String} {value : Value} (h : Fault.ofValue field value = []) :
    (FieldValue.ofValue? value).isSome = true := by
  cases value <;> simp_all [Fault.ofValue, FieldValue.ofValue?]

theorem Record.faults_eq_nil {r : Record} (h : r.faults = []) :
    r.fields.isEmpty = false ∧ Fault.ofText r.name = [] ∧
      (∀ t ∈ r.tags.entries, Fault.ofTag t = []) ∧
      (∀ f ∈ r.fields.entries, Fault.ofField f = []) := by
  simp only [faults, List.append_eq_nil_iff, List.flatMap_eq_nil_iff] at h
  obtain ⟨⟨⟨⟨⟨-, fields⟩, name⟩, tags⟩, values⟩, -⟩ := h
  refine ⟨?_, name, tags, values⟩
  by_contra empty
  simp [Bool.eq_true_of_not_eq_false empty] at fields

/-- The point of a record without faults fits on a line. -/
theorem Record.writable_toPoint {r : Record} (h : r.faults = []) : r.toPoint.Writable := by
  obtain ⟨some_field, name, tags, fields⟩ := faults_eq_nil h
  refine ⟨unquoted_of_ofText name, ?_, ?_, ?_⟩
  · intro t ht
    have ht : t ∈ r.tags.entries := List.mem_of_mem_filter ht
    have fault := tags t ht
    simp only [Fault.ofTag, List.append_eq_nil_iff] at fault
    exact ⟨unquoted_of_ofText fault.1.2, unquoted_of_ofText fault.2⟩
  · intro f hf
    obtain ⟨e, he, carried⟩ := List.mem_filterMap.mp hf
    obtain ⟨v, hv, rfl⟩ := Option.map_eq_some_iff.mp carried
    have fault := fields e he
    simp only [Fault.ofField, List.append_eq_nil_iff] at fault
    exact ⟨unquoted_of_ofText fault.1.2, storable_of_ofValue fault.2 hv⟩
  · obtain ⟨e, rest, entries⟩ := List.exists_cons_of_ne_nil
      (show r.fields.entries ≠ [] by simpa [Dict.isEmpty] using some_field)
    have he : e ∈ r.fields.entries := entries ▸ List.mem_cons_self
    have fault := fields e he
    simp only [Fault.ofField, List.append_eq_nil_iff] at fault
    obtain ⟨v, hv⟩ := Option.isSome_iff_exists.mp (isSome_ofValue? fault.2)
    intro nil
    have mem : (e.1, v) ∈ r.toPoint.fields.entries :=
      List.mem_filterMap.mpr ⟨e, he, by rw [hv]; rfl⟩
    rw [nil] at mem
    exact absurd mem List.not_mem_nil

theorem Record.encode_ok {r : Record} {p : Point} (h : r.encode = .ok p) :
    r.faults = [] ∧ p = r.toPoint := by
  unfold encode at h
  split at h
  · rename_i faultless
    exact ⟨faultless, (Except.ok.inj h).symm⟩
  · exact absurd h (by simp)

namespace Batch

/-- Encoding succeeds with the points of all records in order, none of which has a fault. -/
theorem encodeFrom_ok {index : Nat} {records : List Record} {points : List Point}
    (h : encodeFrom index records = .ok points) :
    points = records.map Record.toPoint ∧ ∀ r ∈ records, r.faults = [] := by
  induction records generalizing index points with
  | nil =>
    obtain rfl : [] = points := Except.ok.inj h
    simp
  | cons r rest ih =>
    unfold encodeFrom at h
    cases hr : r.encode with
    | error f => rw [hr] at h; exact absurd h (by simp)
    | ok p =>
      obtain ⟨faultless, rfl⟩ := Record.encode_ok hr
      rw [hr] at h
      cases ht : encodeFrom (index + 1) rest with
      | error f => rw [ht] at h; exact absurd h (by simp [Except.map])
      | ok ps =>
        rw [ht] at h
        obtain rfl : r.toPoint :: ps = points := Except.ok.inj h
        obtain ⟨rfl, all⟩ := ih ht
        exact ⟨rfl, List.forall_mem_cons.mpr ⟨faultless, all⟩⟩

theorem encode_ok {settings : Settings} {records : List Record} {b : Batch}
    (h : encode settings records = .ok b) :
    b = ⟨settings, records.map Record.toPoint⟩ ∧ ∀ r ∈ records, r.faults = [] := by
  unfold encode at h
  cases hp : encodeFrom 0 records with
  | error f => rw [hp] at h; exact absurd h (by simp [Except.map])
  | ok points =>
    rw [hp] at h
    obtain ⟨rfl, all⟩ := encodeFrom_ok hp
    exact ⟨(Except.ok.inj h).symm, all⟩

theorem encodeFrom_of_faultless {records : List Record} (index : Nat)
    (faultless : ∀ r ∈ records, r.faults = []) :
    encodeFrom index records = .ok (records.map Record.toPoint) := by
  induction records generalizing index with
  | nil => rfl
  | cons r rest ih =>
    obtain ⟨first, others⟩ := List.forall_mem_cons.mp faultless
    have encoded : r.encode = .ok r.toPoint := by simp [Record.encode, first]
    simp [encodeFrom, encoded, ih (index + 1) others, Except.map]

theorem encode_of_faultless (settings : Settings) {records : List Record}
    (faultless : ∀ r ∈ records, r.faults = []) :
    encode settings records = .ok ⟨settings, records.map Record.toPoint⟩ := by
  simp [encode, encodeFrom_of_faultless 0 faultless, Except.map]

theorem writable_of_encode {settings : Settings} {records : List Record} {b : Batch}
    (h : encode settings records = .ok b) : ∀ p ∈ b.points, p.Writable := by
  obtain ⟨rfl, faultless⟩ := encode_ok h
  intro p hp
  obtain ⟨r, hr, rfl⟩ := List.mem_map.mp hp
  exact Record.writable_toPoint (faultless r hr)

end Batch

end PointRelay
