import PointRelay.Proofs.Decimal.Rounding

/-!
# The interval of a double

The interval that a finite double owns, read as a set of rational numbers. What lies in it is
rounded to the double, and the shortest digits of a double lie in it, so they determine the double.
-/

namespace PointRelay.Decimal

namespace Shortest

/-- The rational numbers in an interval. -/
def Interval.Contains (i : Interval) (x : ℚ) : Prop :=
  if i.closed then i.lo * 2 ^ i.unit ≤ x ∧ x ≤ i.hi * 2 ^ i.unit
  else i.lo * 2 ^ i.unit < x ∧ x < i.hi * 2 ^ i.unit

end Shortest

/-- The number that digits and exponent stand for. -/
def Scientific.value (s : Scientific) : ℚ := s.digits * 10 ^ s.exponent

namespace Double

open Shortest

/-! ## The fields of a double -/

theorem significand_lt (v : Double) : v.significand < 2 ^ 53 := by
  have : v.fractionField < 2 ^ 52 := Nat.mod_lt _ (by norm_num)
  unfold significand
  split <;> omega

theorem le_significand {v : Double} (normal : -1074 < v.scale) : 2 ^ 52 ≤ v.significand := by
  unfold scale at normal
  unfold significand
  split <;> omega

theorem le_scale (v : Double) : -1074 ≤ v.scale := by
  unfold scale
  omega

theorem scale_le {v : Double} (finite : v.isFinite = true) : v.scale ≤ 971 := by
  have : v.exponentField < 2047 := of_decide_eq_true finite
  unfold scale
  omega

/-- The bits below the sign, from scale and significand. -/
theorem magnitude_eq (v : Double) :
    (v.scale + 1074).toNat * 2 ^ 52 + v.significand = v.bits.toNat % 2 ^ 63 := by
  have hs : v.bits.toNat % 2 ^ 63 = v.exponentField * 2 ^ 52 + v.fractionField := by
    unfold exponentField fractionField
    omega
  rw [hs]
  unfold scale significand
  split
  · rename_i h
    simp [h]
  · omega

/-- The bits of a double are its sign and its magnitude. -/
theorem withSign_magnitude (v : Double) :
    withSign v.negative ((v.scale + 1074).toNat * 2 ^ 52 + v.significand) = v := by
  have hlt := v.bits.toNat_lt
  have hbits : (if v.negative then 0x8000000000000000 + v.bits.toNat % 2 ^ 63
      else v.bits.toNat % 2 ^ 63) = v.bits.toNat := by
    unfold negative
    split <;> simp_all
    omega
  rw [magnitude_eq]
  obtain ⟨bits⟩ := v
  simp only [withSign, hbits, UInt64.ofNat_toNat]

theorem magnitude_lt {v : Double} (finite : v.isFinite = true) :
    (v.scale + 1074).toNat * 2 ^ 52 + v.significand < 2047 * 2 ^ 52 := by
  have : v.exponentField < 2047 := of_decide_eq_true finite
  rw [magnitude_eq]
  unfold exponentField at this
  omega

/-! ## Bounds of the interval -/

/-- The bounds of what a double owns, in units of its scale: half a unit to both sides, its ends
only when the significand is even, and a quarter to the left where the binade begins. -/
structure Near (v : Double) (x : ℚ) : Prop where
  lower : (2 * v.significand - 1) * 2 ^ v.scale ≤ 2 * x
  upper : 2 * x ≤ (2 * v.significand + 1) * 2 ^ v.scale
  even : 2 * x = (2 * v.significand - 1) * 2 ^ v.scale ∨
    2 * x = (2 * v.significand + 1) * 2 ^ v.scale → v.significand % 2 = 0
  narrow : v.significand = 2 ^ 52 → -1074 < v.scale →
    (4 * v.significand - 1) * 2 ^ v.scale ≤ 4 * x

theorem near_of_contains {v : Double} (positive : v.significand ≠ 0) {x : ℚ}
    (h : (Interval.of v).Contains x) : Near v x := by
  have hu : (2 : ℚ) ^ v.scale = 2 ^ (v.scale - 2) * 4 := by
    rw [show v.scale = v.scale - 2 + 2 by ring, zpow_add₀ (by norm_num)]
    norm_num
  have hp := two_zpow_pos (v.scale - 2)
  have hi : ((Interval.of v).hi : ℚ) = 4 * v.significand + 2 := by simp [Interval.of]
  have hlo : ((Interval.of v).lo : ℚ) =
      if v.significand = 2 ^ 52 ∧ -1074 < v.scale then 4 * (v.significand : ℚ) - 1
      else 4 * (v.significand : ℚ) - 2 := by
    simp only [Interval.of, Nat.reducePow]
    split
    · rw [Nat.cast_sub (by omega)]
      push_cast
      rfl
    · rw [Nat.cast_sub (by omega)]
      push_cast
      rfl
  have wide : (4 * v.significand - 2 : ℚ) ≤ (Interval.of v).lo := by
    rw [hlo]
    split <;> linarith
  have bounds : (Interval.of v).lo * 2 ^ (v.scale - 2) ≤ x ∧
      x ≤ (Interval.of v).hi * 2 ^ (v.scale - 2) := by
    unfold Interval.Contains at h
    split at h
    · exact h
    · exact ⟨h.1.le, h.2.le⟩
  rw [hi] at bounds
  have inside := mul_le_mul_of_nonneg_right wide hp.le
  refine ⟨by rw [hu]; nlinarith [bounds.1], by rw [hu]; nlinarith [bounds.2], ?_, ?_⟩
  · intro ends
    by_contra odd
    have hc : ¬ (Interval.of v).closed = true := by simpa [Interval.of] using odd
    rw [Interval.Contains, if_neg hc, hi] at h
    rw [hu] at ends
    change (Interval.of v).lo * 2 ^ (v.scale - 2) < x ∧
      x < (4 * v.significand + 2) * 2 ^ (v.scale - 2) at h
    rcases ends with e | e <;> nlinarith [h.1, h.2]
  · intro hm hs
    rw [if_pos ⟨hm, hs⟩] at hlo
    rw [hu, ← hlo]
    nlinarith [bounds.1]

theorem Near.positive {v : Double} (positive : v.significand ≠ 0) {x : ℚ} (h : Near v x) :
    0 < x := by
  have hm : (1 : ℚ) ≤ v.significand := by exact_mod_cast Nat.one_le_iff_ne_zero.mpr positive
  have := two_zpow_pos v.scale
  nlinarith [h.lower]

/-- A finite double owns numbers of the range of doubles only. -/
theorem Near.bounds {v : Double} (finite : v.isFinite = true) (positive : v.significand ≠ 0)
    {x : ℚ} (h : Near v x) : 1 ≤ x * 2 ^ 1075 ∧ x < 2 ^ 1024 := by
  have hp := two_zpow_pos v.scale
  constructor
  · have large : (1 : ℚ) ≤ v.significand := by
      exact_mod_cast Nat.one_le_iff_ne_zero.mpr positive
    have bottom : (2 : ℚ) ^ (-1074 : ℤ) ≤ 2 ^ v.scale :=
      zpow_le_zpow_right₀ (by norm_num) v.le_scale
    have low : (2 : ℚ) ^ (-1074 : ℤ) ≤ 2 * x := by nlinarith [h.lower]
    rw [zpow_neg, zpow_ofNat, inv_le_iff_one_le_mul₀ (by positivity)] at low
    rw [pow_succ]
    generalize (2 : ℚ) ^ 1074 = p at low ⊢
    linarith
  · have small : (2 * v.significand + 1 : ℚ) < 2 * 2 ^ 53 := by
      have : (v.significand : ℚ) + 1 ≤ 2 ^ 53 := by exact_mod_cast v.significand_lt
      linarith
    have top : (2 : ℚ) ^ v.scale ≤ 2 ^ (971 : ℤ) :=
      zpow_le_zpow_right₀ (by norm_num) (scale_le finite)
    have high : 2 * x < 2 * (2 ^ 53 * 2 ^ 971) := by
      rw [zpow_ofNat] at top
      calc 2 * x ≤ (2 * v.significand + 1) * 2 ^ v.scale := h.upper
        _ < 2 * 2 ^ 53 * 2 ^ v.scale := mul_lt_mul_of_pos_right small hp
        _ ≤ 2 * 2 ^ 53 * 2 ^ 971 := mul_le_mul_of_nonneg_left top (by positivity)
        _ = 2 * (2 ^ 53 * 2 ^ 971) := mul_assoc _ _ _
    rw [← pow_add] at high
    exact lt_of_mul_lt_mul_left high (by norm_num)

/-! ## Rounding -/

/-- The rounded quotient on a binary grid, as `ofRatio` computes it. -/
theorem roundDiv_scaled {num den m : ℕ} {q : ℤ} {x : ℚ} (hd : 0 < den) (ratio : x * den = num)
    (lower : (2 * m - 1) * 2 ^ q ≤ 2 * x) (upper : 2 * x ≤ (2 * m + 1) * 2 ^ q)
    (even : 2 * x = (2 * m - 1) * 2 ^ q ∨ 2 * x = (2 * m + 1) * 2 ^ q → m % 2 = 0) :
    (if 0 ≤ q then roundDiv num (den * Nat.pow 2 q.toNat)
      else roundDiv (num * Nat.pow 2 (-q).toNat) den) = m := by
  have hp := two_zpow_pos q
  have hx : x = x / 2 ^ q * 2 ^ q := (div_mul_cancel₀ x hp.ne').symm
  have l : (2 * m - 1 : ℚ) ≤ 2 * (x / 2 ^ q) := by
    rw [hx] at lower
    exact le_of_mul_le_mul_right (by linarith) hp
  have u : 2 * (x / 2 ^ q) ≤ (2 * m + 1 : ℚ) := by
    rw [hx] at upper
    exact le_of_mul_le_mul_right (by linarith) hp
  have tie : 2 * (x / 2 ^ q) = (2 * m - 1 : ℚ) ∨ 2 * (x / 2 ^ q) = 2 * m + 1 → m % 2 = 0 := by
    intro h
    apply even
    rcases h with h | h
    · left; rw [← h, mul_assoc, ← hx]
    · right; rw [← h, mul_assoc, ← hx]
  split
  · rename_i h
    obtain ⟨k, rfl⟩ := Int.eq_ofNat_of_zero_le h
    refine roundDiv_eq_of_ratio (Nat.mul_pos hd (Nat.two_pow_pos k)) ?_ l u tie
    simp only [Int.toNat_natCast, Nat.pow_eq, zpow_natCast, Nat.cast_mul, Nat.cast_pow,
      Nat.cast_ofNat] at hp ⊢
    rw [← ratio]
    field_simp
  · rename_i h
    obtain ⟨k, hk⟩ := Int.eq_ofNat_of_zero_le (show 0 ≤ -q by omega)
    obtain rfl : q = -(k : ℤ) := by omega
    refine roundDiv_eq_of_ratio hd ?_ l u tie
    simp only [neg_neg, Int.toNat_natCast, Nat.pow_eq, zpow_neg, zpow_natCast, Nat.cast_mul,
      Nat.cast_pow, Nat.cast_ofNat]
    rw [← ratio]
    field_simp

/-- The rounding grid is that of the double, except just below the start of its binade. -/
theorem grid_of_near {v : Double} {num den : ℕ} {x : ℚ} (hn : 0 < num) (hd : 0 < den)
    (ratio : x * den = num) (near : Near v x) :
    (max (floorLog2 num den - 52) (-1074) = v.scale) ∨
    (max (floorLog2 num den - 52) (-1074) = v.scale - 1 ∧ v.significand = 2 ^ 52 ∧
      -1074 < v.scale ∧ x < 2 ^ 52 * 2 ^ v.scale) := by
  have hp := two_zpow_pos v.scale
  have small := v.significand_lt
  have below : x < 2 ^ 53 * 2 ^ v.scale := by
    have : (v.significand : ℚ) + 1 ≤ 2 ^ 53 := by exact_mod_cast small
    nlinarith [near.upper]
  have top : (2 : ℚ) ^ (v.scale + 53) = 2 ^ 53 * 2 ^ v.scale := by
    rw [zpow_add₀ (by norm_num), mul_comm]
    norm_num
  have start : (2 : ℚ) ^ (v.scale + 52) = 2 ^ 52 * 2 ^ v.scale := by
    rw [zpow_add₀ (by norm_num), mul_comm]
    norm_num
  by_cases inside : 2 ^ 52 * 2 ^ v.scale ≤ x
  · left
    have he := floorLog2_eq hn hd ratio (e := v.scale + 52) (by rw [start]; exact inside)
      (by rw [show v.scale + 52 + 1 = v.scale + 53 by ring, top]; exact below)
    have := v.le_scale
    omega
  · have under : x < 2 ^ 52 * 2 ^ v.scale := lt_of_not_ge inside
    have hdq : (0 : ℚ) < den := by exact_mod_cast hd
    by_cases normal : -1074 < v.scale
    · right
      have hm : v.significand = 2 ^ 52 := by
        have hge := le_significand normal
        by_contra hne
        have : (2 ^ 52 + 1 : ℚ) ≤ v.significand := by
          exact_mod_cast (show 2 ^ 52 + 1 ≤ v.significand by omega)
        nlinarith [near.lower]
      have low : (2 : ℚ) ^ (v.scale + 51) ≤ x := by
        have h51 : (2 : ℚ) ^ (v.scale + 51) = 2 ^ 51 * 2 ^ v.scale := by
          rw [zpow_add₀ (by norm_num), mul_comm]
          norm_num
        have hq : (v.significand : ℚ) = 2 ^ 52 := by exact_mod_cast hm
        have := near.narrow hm normal
        rw [hq] at this
        rw [h51]
        nlinarith
      have he := floorLog2_eq hn hd ratio (e := v.scale + 51) low
        (by rw [show v.scale + 51 + 1 = v.scale + 52 by ring, start]; exact under)
      exact ⟨by omega, hm, normal, under⟩
    · left
      have hs : v.scale = -1074 := by have := v.le_scale; omega
      obtain ⟨h1, -⟩ := floorLog2_spec hn hd
      have hlt : (2 : ℚ) ^ floorLog2 num den < 2 ^ (v.scale + 52) := by
        rw [start]
        refine lt_of_le_of_lt ?_ under
        rw [← ratio, mul_comm] at h1
        exact le_of_mul_le_mul_right h1 hdq
      have := (zpow_lt_zpow_iff_right₀ (by norm_num : (1 : ℚ) < 2)).mp hlt
      omega

/-- What lies in the interval of a finite double is rounded to it. -/
theorem ofRatio_of_near {v : Double} (finite : v.isFinite = true) (positive : v.significand ≠ 0)
    {num den : ℕ} {x : ℚ} (hd : 0 < den) (ratio : x * den = num) (near : Near v x) :
    ofRatio v.negative num den = v := by
  have hx := near.positive positive
  have hn : 0 < num := by
    have hdq : (0 : ℚ) < den := by exact_mod_cast hd
    exact_mod_cast (ratio ▸ mul_pos hx hdq : (0 : ℚ) < num)
  have fits := magnitude_lt finite
  have value := withSign_magnitude v
  unfold ofRatio
  rw [if_neg hn.ne']
  rcases grid_of_near hn hd ratio near with hq | ⟨hq, hm, normal, under⟩
  · simp only [hq]
    rw [roundDiv_scaled hd ratio near.lower near.upper near.even, if_neg (by omega)]
    exact value
  · have hu : (2 : ℚ) ^ v.scale = 2 ^ (v.scale - 1) * 2 := by
      rw [← two_zpow_succ, sub_add_cancel]
    have hp := two_zpow_pos (v.scale - 1)
    have hmq : (v.significand : ℚ) = 2 ^ 52 := by exact_mod_cast hm
    have low := near.narrow hm normal
    rw [hu, hmq] at low
    rw [hu] at under
    have rounded := roundDiv_scaled (m := 2 ^ 53) (q := v.scale - 1) hd ratio
      (by push_cast; nlinarith) (by push_cast; nlinarith) (fun _ => by norm_num)
    have same : (v.scale - 1 + 1074).toNat * 0x10000000000000 + 2 ^ 53 =
        (v.scale + 1074).toNat * 0x10000000000000 + v.significand := by omega
    simp only [hq]
    rw [rounded, same, if_neg (by omega)]
    exact value

end Double

end PointRelay.Decimal
