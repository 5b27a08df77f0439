import PointRelay.Proofs.Decimal.Digits
import PointRelay.Time.Stamp

/-!
# Instants of a clock

Nanoseconds are counted by a product and a sum of 64-bit integers, each of which may leave the
range. When neither does the count is exact. For the instants of a clock the product is in range
when the sum is, and a timestamp that is read is an instant of a clock.
-/

namespace PointRelay.Time

namespace Instant

/-- A signed 64-bit integer holds the number. -/
def Fits (n : Int) : Prop := -9223372036854775808 ≤ n ∧ n ≤ 9223372036854775807

instance (n : Int) : Decidable (Fits n) := inferInstanceAs (Decidable (_ ∧ _))

/-- The nanoseconds of a clock run through their second, and through a leap second behind the last
second of a minute. -/
def OnClock (t : Instant) : Prop :=
  t.nanos < 1000000000 ∨ t.secs % 60 = 59 ∧ t.nanos < 2000000000

end Instant

namespace Stamp

open Decimal

theorem fraction_lt {cs rest : List Char} {n : Nat} (found : fraction cs = some (n, rest)) :
    n < 1000000000 := by
  unfold fraction at found
  split at found
  · rename_i r
    dsimp only at found
    split at found
    · cases found
    · obtain ⟨rfl, -⟩ := Prod.mk.inj (Option.some.inj found)
      have digits : AllDigits ((r.takeWhile Char.isDigit).take 9) := fun c mem =>
        List.all_eq_true.mp List.all_takeWhile c (List.mem_of_mem_take mem)
      have short : ((r.takeWhile Char.isDigit).take 9).length ≤ 9 := List.length_take_le 9 _
      generalize (r.takeWhile Char.isDigit).take 9 = kept at digits short
      have whole : 10 ^ kept.length * 10 ^ (9 - kept.length) = 1000000000 := by
        rw [← Nat.pow_add, Nat.add_sub_cancel' short]
      rw [← whole]
      exact Nat.mul_lt_mul_of_pos_right (digitsValue_lt digits) (Nat.pow_pos (by decide))
  · obtain ⟨zero, -⟩ := Prod.mk.inj (Option.some.inj found)
    omega

/-- An offset is of whole minutes. -/
theorem offset_minutes {cs rest : List Char} {secs : Int}
    (found : offset cs = some (secs, rest)) : secs % 60 = 0 := by
  have signed : ∀ {negative : Bool} {cs rest : List Char} {secs : Int},
      signedOffset negative cs = some (secs, rest) → secs % 60 = 0 := by
    intro negative cs rest secs found
    simp only [signedOffset, Option.bind_eq_bind, Option.bind_eq_some_iff] at found
    obtain ⟨⟨hours, r⟩, -, ⟨minutes, r'⟩, -, found⟩ := found
    split at found
    · cases found
    · obtain ⟨rfl, -⟩ := Prod.mk.inj (Option.some.inj found)
      cases negative <;> simp only [if_true, if_false, Bool.false_eq_true] <;> omega
  unfold offset at found
  split at found
  · cases found
    rfl
  · cases found
    rfl
  · exact signed found
  · exact signed found
  · exact signed found
  · split at found
    · cases found
      rfl
    · cases found
  · cases found

theorem onClock_instant? {d : Date} {hour minute second nanos : Nat} {offset : Int} {t : Instant}
    (small : nanos < 1000000000) (minutes : offset % 60 = 0)
    (found : instant? d hour minute second nanos offset = some t) : t.OnClock := by
  unfold instant? at found
  split at found
  · cases found
  · rename_i valid
    by_cases leap : second = 60
    · simp only [if_pos leap] at found
      split at found
      · obtain rfl := Option.some.inj found
        right
        dsimp only
        omega
      · cases found
    · simp only [if_neg leap] at found
      split at found
      · obtain rfl := Option.some.inj found
        exact Or.inl small
      · cases found

/-- What is read as a timestamp is an instant of a clock. -/
theorem onClock_read? {s : String} {t : Instant} (found : read? s = some t) : t.OnClock := by
  simp only [read?, Option.bind_eq_bind, Option.bind_eq_some_iff] at found
  obtain ⟨_, -, _, -, _, -, _, -, _, -, _, -, _, -, _, -, _, -, _, -, _, -, ⟨nanos, _⟩, part,
    ⟨offset, _⟩, away, found⟩ := found
  split at found
  · exact onClock_instant? (fraction_lt part) (offset_minutes away) found
  · cases found

end Stamp

end PointRelay.Time
