import Mathlib.Data.Nat.Cast.Field
import Mathlib.Tactic.LinearCombination
import PointRelay.Proofs.Decimal.Digits
import PointRelay.Proofs.Decimal.Interval

/-!
# Doubles read back

The digits found for a finite double lie in its interval: either a coarse grid has a point there, or
the search ends on a grid on which the double itself is a point. Their positional text is read as
the same number, which is rounded to the double again. So the text determines the double.
-/

namespace PointRelay.Decimal

namespace Shortest

theorem ten_zpow_pos (k : ℤ) : (0 : ℚ) < 10 ^ k := zpow_pos (by norm_num) k

/-- A power is the quotient of its positive and its negative part. -/
theorem zpow_eq_div (b : ℚ) (hb : b ≠ 0) (k : ℤ) : b ^ k = b ^ k.toNat / b ^ (-k).toNat := by
  rw [← zpow_natCast, ← zpow_natCast, ← zpow_sub₀ hb]
  congr 1
  omega

/-- The factors bring both sides of a comparison to integers. -/
theorem factors_ratio (unit k : ℤ) :
    0 < (factors unit k).1 ∧ 0 < (factors unit k).2 ∧
      ((factors unit k).1 : ℚ) * 10 ^ k = (factors unit k).2 * 2 ^ unit := by
  refine ⟨Nat.mul_pos (Nat.two_pow_pos _) (Nat.pow_pos (by norm_num)),
    Nat.mul_pos (Nat.pow_pos (by norm_num)) (Nat.two_pow_pos _), ?_⟩
  simp only [factors, Nat.pow_eq, Nat.cast_mul, Nat.cast_pow, Nat.cast_ofNat]
  rw [zpow_eq_div 10 (by norm_num) k, zpow_eq_div 2 (by norm_num) unit]
  field_simp

theorem compare_factors (unit k : ℤ) (n d : ℕ) :
    (n * (factors unit k).1 ≤ d * (factors unit k).2 ↔ (n : ℚ) * 2 ^ unit ≤ d * 10 ^ k) ∧
      (d * (factors unit k).2 ≤ n * (factors unit k).1 ↔ (d : ℚ) * 10 ^ k ≤ n * 2 ^ unit) := by
  obtain ⟨ha, hb, ratio⟩ := factors_ratio unit k
  generalize (factors unit k).1 = a at *
  generalize (factors unit k).2 = b at *
  have hbq : (0 : ℚ) < b := by exact_mod_cast hb
  have hk := ten_zpow_pos k
  have left : (n : ℚ) * 2 ^ unit * b = n * a * 10 ^ k := by linear_combination -(n : ℚ) * ratio
  have right : (d : ℚ) * 10 ^ k * b = d * b * 10 ^ k := by ring
  constructor
  · rw [← mul_le_mul_iff_left₀ hbq, left, right, mul_le_mul_iff_left₀ hk]
    exact_mod_cast Iff.rfl
  · rw [← mul_le_mul_iff_left₀ hbq, left, right, mul_le_mul_iff_left₀ hk]
    exact_mod_cast Iff.rfl

theorem Interval.has_iff (i : Interval) (k : ℤ) (d : ℕ) :
    i.has k d = true ↔ i.Contains (d * 10 ^ k) := by
  obtain ⟨lo, -⟩ := compare_factors i.unit k i.lo d
  obtain ⟨-, lo'⟩ := compare_factors i.unit k i.lo d
  obtain ⟨hi', hi⟩ := compare_factors i.unit k i.hi d
  unfold Interval.has Interval.Contains
  cases i.closed with
  | true => simp [lo, hi]
  | false => simp [← not_le, lo', hi']

theorem Interval.has_of_pick {i : Interval} {k : ℤ} {d : ℕ} (h : i.pick k = some d) :
    i.has k d = true := by
  unfold Interval.pick at h
  simp only at h
  split at h
  · rename_i below above
    split at h
    · rw [← Option.some.inj h]; exact below
    · rw [← Option.some.inj h]; exact above
  · rename_i below _
    rw [← Option.some.inj h]; exact below
  · rename_i _ above
    rw [← Option.some.inj h]; exact above
  · exact absurd h (by simp)

/-- A search finds a point of the interval, when its last grid has the centre as a point. -/
theorem contains_search {i : Interval} {fuel : ℕ} {k : ℤ}
    (last : (i.centre : ℚ) * 2 ^ i.unit =
      ((i.centre * (factors i.unit (k - fuel)).1 / (factors i.unit (k - fuel)).2 : ℕ) : ℚ) *
        10 ^ (k - fuel))
    (centre : i.Contains (i.centre * 2 ^ i.unit)) : i.Contains (search i fuel k).value := by
  induction fuel generalizing k with
  | zero =>
    simp only [Nat.cast_zero, sub_zero] at last
    rw [last] at centre
    exact centre
  | succ fuel ih =>
    unfold search
    cases hp : i.pick k with
    | some d => exact (i.has_iff k d).mp (Interval.has_of_pick hp)
    | none =>
      apply ih
      rw [show k - 1 - (fuel : ℤ) = k - ((fuel + 1 : ℕ) : ℤ) by push_cast; ring]
      exact last

/-- On a grid as fine as the scale a double is a point itself. -/
theorem centre_on_grid (m : ℕ) (scale k : ℤ) (fine : k ≤ scale) (whole : k ≤ 0) :
    ((4 * m : ℕ) : ℚ) * 2 ^ (scale - 2) =
      ((4 * m * (factors (scale - 2) k).1 / (factors (scale - 2) k).2 : ℕ) : ℚ) * 10 ^ k := by
  obtain ⟨-, hb, ratio⟩ := factors_ratio (scale - 2) k
  have divides : (factors (scale - 2) k).2 ∣ 4 * m * (factors (scale - 2) k).1 := by
    simp only [factors, Nat.pow_eq, show k.toNat = 0 by omega, pow_zero, one_mul]
    have hn : (-(scale - 2)).toNat ≤ 2 + (-k).toNat := by omega
    have ten : 10 ^ (-k).toNat = 2 ^ (-k).toNat * 5 ^ (-k).toNat := by
      rw [← Nat.mul_pow]
    have : 4 * m * (2 ^ (scale - 2).toNat * 10 ^ (-k).toNat) =
        2 ^ (2 + (-k).toNat) * (m * 2 ^ (scale - 2).toNat * 5 ^ (-k).toNat) := by
      rw [ten, pow_add]
      ring
    rw [this]
    exact Dvd.dvd.mul_right (pow_dvd_pow 2 hn) _
  have hbq : ((factors (scale - 2) k).2 : ℚ) ≠ 0 := by exact_mod_cast hb.ne'
  rw [Nat.cast_div divides hbq, div_mul_eq_mul_div, eq_div_iff hbq]
  push_cast
  linear_combination -(4 * (m : ℚ)) * ratio

theorem contains_centre {v : Double} (positive : v.significand ≠ 0) :
    (Interval.of v).Contains (((4 * v.significand : ℕ) : ℚ) * 2 ^ (v.scale - 2)) := by
  have hp := two_zpow_pos (v.scale - 2)
  have hlo : (Interval.of v).lo < 4 * v.significand := by
    simp only [Interval.of]
    split <;> omega
  have lo : ((Interval.of v).lo : ℚ) * 2 ^ (v.scale - 2) <
      ((4 * v.significand : ℕ) : ℚ) * 2 ^ (v.scale - 2) :=
    mul_lt_mul_of_pos_right (by exact_mod_cast hlo) hp
  have hi : ((4 * v.significand : ℕ) : ℚ) * 2 ^ (v.scale - 2) <
      ((Interval.of v).hi : ℚ) * 2 ^ (v.scale - 2) :=
    mul_lt_mul_of_pos_right (by exact_mod_cast Nat.lt_add_of_pos_right (by norm_num)) hp
  unfold Interval.Contains
  split
  · exact ⟨lo.le, hi.le⟩
  · exact ⟨lo, hi⟩

end Shortest

open Shortest

/-- The shortest digits of a double lie in what it owns. -/
theorem Double.near_shortest {v : Double} (positive : v.significand ≠ 0) :
    v.Near v.shortest.value := by
  apply Double.near_of_contains positive
  unfold Double.shortest
  simp only
  generalize (((v.significand.log2 : ℤ) + 1 + v.scale) * 30103).fdiv 100000 + 2 = top
  apply contains_search
  · exact centre_on_grid v.significand v.scale _ (by omega) (by omega)
  · exact contains_centre positive

/-! ## Positional text -/

/-- Digits with an optional point between them. -/
def positionalText (whole fraction : List Char) : List Char :=
  whole ++ if fraction = [] then [] else '.' :: fraction

theorem positional_parts (s : Scientific) : ∃ whole fraction,
    s.positional = positionalText whole fraction ∧ whole ≠ [] ∧ AllDigits whole ∧
      AllDigits fraction ∧
      (digitsValue (whole ++ fraction) : ℚ) * 10 ^ (-(fraction.length : ℤ)) = s.value := by
  have digits := allDigits_natText s.digits
  have some_digit := natText_ne_nil s.digits
  have read := digitsValue_natText s.digits
  unfold Scientific.positional Scientific.value
  generalize natText s.digits = ds at *
  simp only
  split
  · rename_i h
    refine ⟨ds ++ List.replicate s.exponent.toNat '0', [], by simp [positionalText],
      by simp [some_digit], digits.append (allDigits_replicate_zero _), by simp [AllDigits], ?_⟩
    rw [List.append_nil, digitsValue_append_zeros, read]
    obtain ⟨k, hk⟩ := Int.eq_ofNat_of_zero_le h
    simp [hk]
  · rename_i h
    have back : -((-s.exponent).toNat : ℤ) = s.exponent := by omega
    split
    · rename_i inside
      have length : (ds.drop (ds.length - (-s.exponent).toNat)).length = (-s.exponent).toNat := by
        simp
        omega
      refine ⟨ds.take (ds.length - (-s.exponent).toNat), ds.drop (ds.length - (-s.exponent).toNat),
        ?_, ?_, digits.of_subset fun _ => List.mem_of_mem_take,
        digits.of_subset fun _ => List.mem_of_mem_drop, ?_⟩
      · have : ds.drop (ds.length - (-s.exponent).toNat) ≠ [] := by
          intro nil
          rw [nil] at length
          simp at length
          omega
        simp [positionalText, this]
      · intro nil
        have := congrArg List.length nil
        simp at this
        omega
      · rw [List.take_append_drop, read, length, back]
    · rename_i outside
      have length : (List.replicate ((-s.exponent).toNat - ds.length) '0' ++ ds).length =
          (-s.exponent).toNat := by
        simp
        omega
      refine ⟨['0'], List.replicate ((-s.exponent).toNat - ds.length) '0' ++ ds,
        by simp [positionalText, some_digit], by simp, by simp [AllDigits],
        (allDigits_replicate_zero _).append digits, ?_⟩
      rw [length, back, show ['0'] = List.replicate 1 '0' from rfl, digitsValue_zeros_append,
        digitsValue_zeros_append, read]

theorem positionalText_cons {whole : List Char} (fraction : List Char)
    (some_digit : whole ≠ []) (digits : AllDigits whole) :
    ∃ d rest, positionalText whole fraction = d :: rest ∧ d.isDigit = true := by
  obtain ⟨d, rest, rfl⟩ := List.exists_cons_of_ne_nil some_digit
  exact ⟨d, _, rfl, digits d List.mem_cons_self⟩

/-- Reading positional text behind a sign. -/
theorem ofText?_positional {s : String} {neg : Bool} {whole fraction : List Char}
    (sign : splitSign s.toList = (neg, positionalText whole fraction)) (some_digit : whole ≠ [])
    (digits : AllDigits whole) (digits' : AllDigits fraction) :
    Double.ofText? s =
      some (Double.ofDecimal neg (digitsValue (whole ++ fraction)) (-(fraction.length : ℤ))) := by
  have stop : ∀ c ∈ (if fraction = [] then [] else '.' :: fraction).head?,
      c.isDigit = false := by
    split
    · simp
    · simp
  obtain ⟨front, back⟩ := takeWhile_digits digits stop
  have all : (fraction ++ []).takeWhile Char.isDigit = fraction ∧
      (fraction ++ []).dropWhile Char.isDigit = [] := takeWhile_digits digits' (by simp)
  rw [List.append_nil] at all
  unfold Double.ofText?
  simp only [sign]
  unfold positionalText
  simp only [front, back]
  by_cases h : fraction = []
  · simp [h, some_digit, exponent?]
  · simp [h, some_digit, all, exponent?]

/-! ## Reading a text back -/

/-- The bounds under which no exponent is cut off: a text has about as many places as its value
needs. -/
theorem log2_bounds_of_near {v : Double} (finite : v.isFinite = true)
    (positive : v.significand ≠ 0) {m f : ℕ} (near : v.Near (m * 10 ^ (-(f : ℤ)))) :
    m ≠ 0 ∧ m.log2 < 1024 + 4 * f ∧ 3 * f < m.log2 + 1076 := by
  have hx := near.positive positive
  obtain ⟨low, high⟩ := near.bounds finite positive
  have h10 : (0 : ℚ) < 10 ^ f := by positivity
  rw [zpow_neg, zpow_natCast] at hx low high
  have hm : m ≠ 0 := by
    rintro rfl
    simp at hx
  refine ⟨hm, ?_, ?_⟩
  · rw [Nat.log2_lt hm]
    have four : (10 : ℚ) ^ f ≤ 2 ^ (4 * f) := by
      rw [pow_mul]
      exact pow_le_pow_left₀ (by norm_num) (by norm_num) f
    have : (m : ℚ) < 2 ^ (1024 + 4 * f) := by
      rw [pow_add]
      calc (m : ℚ) = m * (10 ^ f)⁻¹ * 10 ^ f := by field_simp
        _ < 2 ^ 1024 * 10 ^ f := mul_lt_mul_of_pos_right high h10
        _ ≤ 2 ^ 1024 * 2 ^ (4 * f) := mul_le_mul_of_nonneg_left four (by positivity)
    exact_mod_cast this
  · have eight : (2 : ℚ) ^ (3 * f) ≤ 10 ^ f := by
      rw [pow_mul]
      exact pow_le_pow_left₀ (by norm_num) (by norm_num) f
    have hlog : (m : ℚ) < 2 ^ (m.log2 + 1) := by exact_mod_cast Nat.lt_log2_self
    have : (2 : ℚ) ^ (3 * f) < 2 ^ (m.log2 + 1076) := by
      calc (2 : ℚ) ^ (3 * f) ≤ 10 ^ f * 1 := by rw [mul_one]; exact eight
        _ ≤ 10 ^ f * (m * (10 ^ f)⁻¹ * 2 ^ 1075) := mul_le_mul_of_nonneg_left low h10.le
        _ = m * 2 ^ 1075 := by field_simp
        _ < 2 ^ (m.log2 + 1) * 2 ^ 1075 := mul_lt_mul_of_pos_right hlog (by positivity)
        _ = 2 ^ (m.log2 + 1076) := by rw [← pow_add]
    exact (pow_lt_pow_iff_right₀ (by norm_num : (1 : ℚ) < 2)).mp this

/-- A decimal in what a double owns is read as that double. -/
theorem ofDecimal_of_near {v : Double} (finite : v.isFinite = true)
    (positive : v.significand ≠ 0) {m f : ℕ} (near : v.Near (m * 10 ^ (-(f : ℤ)))) :
    Double.ofDecimal v.negative m (-(f : ℤ)) = v := by
  obtain ⟨hm, high, low⟩ := log2_bounds_of_near finite positive near
  unfold Double.ofDecimal
  rw [if_neg hm]
  simp only
  rw [if_neg (by omega), if_neg (by omega)]
  split
  · obtain rfl : f = 0 := by omega
    apply Double.ofRatio_of_near finite positive (by norm_num) _ near
    simp
  · apply Double.ofRatio_of_near finite positive (Nat.pow_pos (by norm_num)) _ near
    simp

theorem ofDecimal_zero {v : Double} (none : v.significand = 0) (e : ℤ) :
    Double.ofDecimal v.negative 0 e = v := by
  have value := v.withSign_magnitude
  have hs : v.scale = -1074 := by
    have hl := v.le_scale
    by_contra h
    have := Double.le_significand (v := v) (by omega)
    omega
  rw [none, hs] at value
  simpa [Double.ofDecimal, Double.zero] using value

/-- The text of a finite double: a sign and digits with an optional point between them. -/
theorem text_parts {v : Double} (finite : v.isFinite = true) : ∃ whole fraction,
    v.text.toList = (if v.negative then ['-'] else []) ++ positionalText whole fraction ∧
      whole ≠ [] ∧ AllDigits whole ∧ AllDigits fraction ∧
      Double.ofDecimal v.negative (digitsValue (whole ++ fraction)) (-(fraction.length : ℤ)) =
        v := by
  have sign : (if v.negative then "-" else "").toList = if v.negative then ['-'] else [] := by
    split <;> rfl
  have number : v.isNaN = false ∧ v.isInfinite = false := by
    simp [Double.isNaN, Double.isInfinite, finite]
  unfold Double.text
  simp only [number]
  by_cases positive : v.significand = 0
  · refine ⟨['0'], [], ?_, by simp, by simp [AllDigits], by simp [AllDigits], ?_⟩
    · simp [positive, sign, positionalText]
    · exact ofDecimal_zero positive _
  · obtain ⟨whole, fraction, text, some_digit, digits, digits', value⟩ :=
      positional_parts v.shortest
    refine ⟨whole, fraction, ?_, some_digit, digits, digits', ?_⟩
    · simp [positive, sign, text]
    · apply ofDecimal_of_near finite positive
      rw [value]
      exact Double.near_shortest positive

/-- Reading the text of a finite double gives that double. -/
theorem Double.ofText?_text {v : Double} (finite : v.isFinite = true) :
    Double.ofText? v.text = some v := by
  obtain ⟨whole, fraction, text, some_digit, digits, digits', value⟩ := text_parts finite
  obtain ⟨d, rest, front, digit⟩ := positionalText_cons fraction some_digit digits
  have sign : splitSign v.text.toList = (v.negative, positionalText whole fraction) := by
    rw [text]
    cases v.negative with
    | true => rfl
    | false =>
      rw [front]
      exact splitSign_of_digit digit rest
  rw [ofText?_positional sign some_digit digits digits', value]

end PointRelay.Decimal
