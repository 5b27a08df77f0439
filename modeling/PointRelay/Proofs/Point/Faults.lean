import PointRelay.Proofs.Point.Encoding
import PointRelay.Proofs.Time.Clock

/-!
# What is at fault with a record

A record can be encoded when its texts can stand unquoted on a line, its values are of kinds that
the store knows and its time can be counted. What is at fault with it otherwise is the first of its
faults, in the order name, tags, fields, time. Encoding a batch gives the points of its records or
tells of the first record that is at fault.
-/

namespace PointRelay

open Decimal Time

/-! ## What can be encoded -/

/-- The store knows the kind of a value, and the value is carried over as it is. -/
inductive Carries : Value → FieldValue → Prop where
  | boolean (b : Bool) : Carries (.bool b) (.boolean b)
  | string (s : String) : Carries (.string s) (.string s)
  | integer {n : Int} (fits : Instant.Fits n) : Carries (.integer n) (.integer n)
  | float {v : Double} (finite : v.isFinite = true) : Carries (.double v) (.float v)

namespace Record

/-- The integers of a record are those that a reader of records makes. -/
def Native (r : Record) : Prop :=
  ∀ key n, (key, Value.integer n) ∈ r.fields.entries →
    -9223372036854775808 ≤ n ∧ n ≤ 18446744073709551615

end Record

/-! ## What is at fault -/

namespace Record

end Record

/-! ## Faults that are looked for -/

/-- The faults that are found tell whether something is sound, and the first of them what is at
fault with it. -/
structure Finds (found : List Fault) (sound : Prop) (fault : Fault → Prop) : Prop where
  nil : found = [] ↔ sound
  head (f : Fault) : found.head? = some f ↔ fault f

namespace Finds

variable {found more : List Fault} {sound sound' : Prop} {fault fault' : Fault → Prop}

theorem none (fine : sound) (never : ∀ f, ¬ fault f) : Finds [] sound fault :=
  ⟨⟨fun _ => fine, fun _ => rfl⟩, fun f => ⟨nofun, fun found => absurd found (never f)⟩⟩

theorem one {f : Fault} (unsound : ¬ sound) (only : ∀ g, fault g ↔ g = f) :
    Finds [f] sound fault where
  nil := ⟨nofun, fun fine => absurd fine unsound⟩
  head g := by rw [only, List.head?_cons, Option.some.injEq, eq_comm]

theorem ite {c : Prop} [Decidable c] (f : Fault) :
    Finds (if c then [f] else []) (¬ c) fun g => c ∧ g = f := by
  by_cases h : c
  · rw [if_pos h]
    exact one (not_not.mpr h) fun g => and_iff_right h
  · rw [if_neg h]
    exact none h fun g found => h found.1

/-- What is looked for second is found first only when the first search finds nothing. -/
theorem append (first : Finds found sound fault) (second : Finds more sound' fault') :
    Finds (found ++ more) (sound ∧ sound') fun f => fault f ∨ sound ∧ fault' f := by
  constructor
  · rw [List.append_eq_nil_iff, first.nil, second.nil]
  · intro f
    rw [← first.nil, ← first.head, ← second.head]
    cases found <;> simp

/-- In a list the first item with a fault is found. -/
theorem flatMap {α : Type} {search : α → List Fault} {sound : α → Prop}
    {fault : α → Fault → Prop} {items : List α}
    (each : ∀ x ∈ items, Finds (search x) (sound x) (fault x)) :
    Finds (items.flatMap search) (∀ x ∈ items, sound x) fun f =>
      ∃ before x after, items = before ++ x :: after ∧ (∀ u ∈ before, sound u) ∧ fault x f := by
  induction items with
  | nil =>
    constructor
    · simp
    · intro f
      simp
  | cons y rest ih =>
    obtain ⟨here, later⟩ := List.forall_mem_cons.mp each
    have both := here.append (ih later)
    rw [← List.flatMap_cons] at both
    refine ⟨both.nil.trans List.forall_mem_cons.symm, fun f => (both.head f).trans ?_⟩
    constructor
    · rintro (fault | ⟨sound, before, x, after, rfl, all, fault⟩)
      · exact ⟨[], y, rest, rfl, List.forall_mem_nil _, fault⟩
      · exact ⟨y :: before, x, after, rfl, List.forall_mem_cons.mpr ⟨sound, all⟩, fault⟩
    · rintro ⟨before, x, after, order, all, fault⟩
      cases before with
      | nil =>
        obtain ⟨rfl, rfl⟩ := List.cons.inj order
        exact Or.inl fault
      | cons u before =>
        obtain ⟨rfl, rfl⟩ := List.cons.inj order
        obtain ⟨sound, all⟩ := List.forall_mem_cons.mp all
        exact Or.inr ⟨sound, before, x, after, rfl, all, fault⟩

/-- The same search, told of in other words. -/
theorem congr (finds : Finds found sound fault) (sounds : sound ↔ sound')
    (faults : ∀ f, fault f ↔ fault' f) : Finds found sound' fault' :=
  ⟨finds.nil.trans sounds, fun f => (finds.head f).trans (faults f)⟩

/-- An entry is looked at for an empty key, then at its key, then at its value. -/
theorem entry {key : String} {empty : Fault} (keyed : Finds found sound fault)
    (valued : Finds more sound' fault') :
    Finds ((if key = "" then [empty] else []) ++ found ++ more) (key ≠ "" ∧ sound ∧ sound')
      fun f => key = "" ∧ f = empty ∨ key ≠ "" ∧ fault f ∨ key ≠ "" ∧ sound ∧ fault' f := by
  refine (((Finds.ite empty).append keyed).append valued).congr and_assoc fun f => ?_
  rw [or_assoc, and_assoc]

end Finds

namespace Record

theorem Native.low {r : Record} (native : r.Native) {x : String × Value}
    (mem : x ∈ r.fields.entries) : ∀ n, x.2 = .integer n → -9223372036854775808 ≤ n := by
  rintro n same
  obtain ⟨key, value⟩ := x
  subst same
  exact (native key n mem).1

end Record

/-! ## The point of a record -/

theorem Carries.ofValue? {value : Value} {v : FieldValue} (carried : Carries value v) :
    FieldValue.ofValue? value = some v := by
  cases carried <;> rfl

namespace Record

end Record

/-! ## Batches -/

namespace Batch

end Batch

end PointRelay
