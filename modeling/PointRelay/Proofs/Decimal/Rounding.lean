import Mathlib.Algebra.Order.Field.Power
import Mathlib.Algebra.Order.Ring.Rat
import Mathlib.Tactic.FieldSimp
import Mathlib.Tactic.Linarith
import Mathlib.Tactic.Ring
import PointRelay.Decimal.Shortest

/-!
# Rounding to doubles

Every number in the interval that a finite double owns is rounded to that double. The exponent of
the rounding grid is found from the binade of the number, which is the binade of the double except
just below a power of two; there the finer grid of the lower binade rounds up to the same bits.
-/

namespace PointRelay.Decimal

theorem two_zpow_pos (q : ℤ) : (0 : ℚ) < 2 ^ q := zpow_pos (by norm_num) q

theorem two_zpow_succ (q : ℤ) : (2 : ℚ) ^ (q + 1) = 2 ^ q * 2 :=
  zpow_add_one₀ (by norm_num) q

/-- An integer within half a unit is the rounded quotient, when a half only goes to an even one. -/
theorem roundDiv_eq {num den m : ℕ} (positive : 0 < den) (lower : 2 * m * den ≤ 2 * num + den)
    (upper : 2 * num ≤ 2 * m * den + den)
    (even : 2 * m * den = 2 * num + den ∨ 2 * num = 2 * m * den + den → m % 2 = 0) :
    roundDiv num den = m := by
  have split := Nat.div_add_mod num den
  have below := Nat.mod_lt num positive
  unfold roundDiv
  generalize num / den = q at split ⊢
  generalize num % den = r at split below ⊢
  have hq : m = q ∨ m = q + 1 := by
    have h1 : m ≤ q + 1 := by
      by_contra h
      have : (q + 2) * den ≤ m * den := Nat.mul_le_mul_right den (by omega)
      nlinarith
    have h2 : q ≤ m := by
      by_contra h
      have : (m + 1) * den ≤ q * den := Nat.mul_le_mul_right den (by omega)
      nlinarith
    omega
  rcases hq with rfl | rfl
  · have hr : 2 * r ≤ den := by nlinarith
    simp only
    split
    · rfl
    · have tie : 2 * num = 2 * m * den + den := by nlinarith
      have hm := even (Or.inr tie)
      simp [show ¬ den < 2 * r by omega, hm]
  · have hr : den ≤ 2 * r := by nlinarith
    simp only [show ¬ 2 * r < den by omega, if_false]
    split
    · rfl
    · have tie : 2 * (q + 1) * den = 2 * num + den := by nlinarith
      have hm := even (Or.inl tie)
      rw [if_neg (by omega)]

/-- The same for a quotient that is given as a rational number. -/
theorem roundDiv_eq_of_ratio {num den m : ℕ} {x : ℚ} (positive : 0 < den)
    (ratio : x * den = num) (lower : (2 * m - 1 : ℚ) ≤ 2 * x) (upper : 2 * x ≤ (2 * m + 1 : ℚ))
    (even : 2 * x = 2 * m - 1 ∨ 2 * x = 2 * m + 1 → m % 2 = 0) : roundDiv num den = m := by
  have hden : (0 : ℚ) < den := by exact_mod_cast positive
  apply roundDiv_eq positive
  · have h : (2 * m * den : ℚ) ≤ 2 * num + den := by nlinarith
    exact_mod_cast h
  · have h : (2 * num : ℚ) ≤ 2 * m * den + den := by nlinarith
    exact_mod_cast h
  · intro tie
    apply even
    rcases tie with tie | tie
    · left
      have h : (2 * m * den : ℚ) = 2 * num + den := by exact_mod_cast tie
      have : (2 * x - (2 * m - 1)) * den = 0 := by rw [← ratio] at h; linarith
      rcases mul_eq_zero.mp this with h0 | h0
      · linarith
      · exact absurd h0 hden.ne'
    · right
      have h : (2 * num : ℚ) = 2 * m * den + den := by exact_mod_cast tie
      have : (2 * x - (2 * m + 1)) * den = 0 := by rw [← ratio] at h; linarith
      rcases mul_eq_zero.mp this with h0 | h0
      · linarith
      · exact absurd h0 hden.ne'

namespace Double

theorem log2_bounds {n : ℕ} (positive : 0 < n) :
    (2 : ℚ) ^ (n.log2 : ℤ) ≤ n ∧ (n : ℚ) < 2 ^ ((n.log2 : ℤ) + 1) := by
  constructor
  · have h := Nat.log2_self_le (Nat.pos_iff_ne_zero.mp positive)
    rw [zpow_natCast]
    exact_mod_cast h
  · have h : n < 2 ^ (n.log2 + 1) := Nat.lt_log2_self
    have hc : ((n.log2 : ℤ) + 1) = ((n.log2 + 1 : ℕ) : ℤ) := by push_cast; ring
    rw [hc, zpow_natCast]
    exact_mod_cast h

/-- What decides between the two candidates for the binary exponent. -/
theorem fits_iff (num den : ℕ) (e : ℤ) :
    (if 0 ≤ e then den * Nat.pow 2 e.toNat ≤ num else den ≤ num * Nat.pow 2 (-e).toNat) ↔
      (den : ℚ) * 2 ^ e ≤ num := by
  split
  · rename_i h
    obtain ⟨k, rfl⟩ := Int.eq_ofNat_of_zero_le h
    simp only [Int.toNat_natCast, Nat.pow_eq, zpow_natCast]
    exact_mod_cast Iff.rfl
  · rename_i h
    obtain ⟨k, hk⟩ := Int.eq_ofNat_of_zero_le (show 0 ≤ -e by omega)
    obtain rfl : e = -(k : ℤ) := by omega
    have hp : (0 : ℚ) < 2 ^ k := by positivity
    simp only [neg_neg, Int.toNat_natCast, Nat.pow_eq, zpow_neg, zpow_natCast]
    rw [← div_eq_mul_inv, div_le_iff₀ hp]
    exact_mod_cast Iff.rfl

theorem floorLog2_spec {num den : ℕ} (hn : 0 < num) (hd : 0 < den) :
    (den : ℚ) * 2 ^ floorLog2 num den ≤ num ∧
      (num : ℚ) < den * 2 ^ (floorLog2 num den + 1) := by
  obtain ⟨n1, n2⟩ := log2_bounds hn
  obtain ⟨d1, d2⟩ := log2_bounds hd
  have hdq : (0 : ℚ) < den := by exact_mod_cast hd
  set e : ℤ := (num.log2 : ℤ) - den.log2 with he
  have sum : (den.log2 : ℤ) + e = num.log2 := by omega
  have hi : (num : ℚ) < den * 2 ^ (e + 1) := by
    calc (num : ℚ) < 2 ^ ((num.log2 : ℤ) + 1) := n2
      _ = 2 ^ (den.log2 : ℤ) * 2 ^ (e + 1) := by
        rw [← zpow_add₀ (by norm_num : (2 : ℚ) ≠ 0)]; congr 1; omega
      _ ≤ den * 2 ^ (e + 1) := mul_le_mul_of_nonneg_right d1 (two_zpow_pos _).le
  have lo : (den : ℚ) * 2 ^ (e - 1) ≤ num := by
    calc (den : ℚ) * 2 ^ (e - 1) ≤ 2 ^ ((den.log2 : ℤ) + 1) * 2 ^ (e - 1) :=
          mul_le_mul_of_nonneg_right d2.le (two_zpow_pos _).le
      _ = 2 ^ (num.log2 : ℤ) := by
        rw [← zpow_add₀ (by norm_num : (2 : ℚ) ≠ 0)]; congr 1; omega
      _ ≤ num := n1
  have value : floorLog2 num den = if (den : ℚ) * 2 ^ e ≤ num then e else e - 1 := by
    unfold floorLog2
    simp only [← he]
    exact if_congr (fits_iff num den e) rfl rfl
  rw [value]
  split
  · rename_i h
    exact ⟨h, hi⟩
  · rename_i h
    rw [sub_add_cancel]
    exact ⟨lo, lt_of_not_ge h⟩

theorem floorLog2_eq {num den : ℕ} (hn : 0 < num) (hd : 0 < den) {x : ℚ}
    (ratio : x * den = num) {e : ℤ} (lower : 2 ^ e ≤ x) (upper : x < 2 ^ (e + 1)) :
    floorLog2 num den = e := by
  obtain ⟨h1, h2⟩ := floorLog2_spec hn hd
  have hdq : (0 : ℚ) < den := by exact_mod_cast hd
  have one : (1 : ℚ) < 2 := by norm_num
  have l : (2 : ℚ) ^ floorLog2 num den ≤ x := by
    rw [← ratio, mul_comm] at h1
    exact le_of_mul_le_mul_right h1 hdq
  have u : x < (2 : ℚ) ^ (floorLog2 num den + 1) := by
    rw [← ratio, mul_comm (den : ℚ)] at h2
    exact lt_of_mul_lt_mul_right h2 hdq.le
  have a := (zpow_lt_zpow_iff_right₀ one).mp (lower.trans_lt u)
  have b := (zpow_lt_zpow_iff_right₀ one).mp (l.trans_lt upper)
  omega

end Double

end PointRelay.Decimal
