import Mathlib.Tactic.Ring
import PointRelay.Decimal.Reading
import PointRelay.Decimal.Shortest
import PointRelay.Proofs.Text.Runs

/-!
# Digits

The digits of a natural number read back to it, zeros in front of a run of digits change nothing,
and zeros behind it multiply by ten. Digits are told from what follows them by their class alone.
-/

namespace PointRelay.Decimal

/-- Text that consists of decimal digits. -/
def AllDigits (cs : List Char) : Prop := ∀ c ∈ cs, c.isDigit = true

theorem digitsValue_eq_ofDigitChars (ds : List Char) :
    digitsValue ds = Nat.ofDigitChars 10 ds 0 := by
  rw [Nat.ofDigitChars_eq_foldl, digitsValue]
  congr 1
  funext n c
  rw [Nat.mul_comm]
  rfl

theorem digitsValue_natText (n : Nat) : digitsValue (natText n) = n := by
  rw [digitsValue_eq_ofDigitChars, natText, Nat.ofDigitChars_ten_toDigits]

theorem allDigits_natText (n : Nat) : AllDigits (natText n) :=
  fun _ h => Nat.isDigit_of_mem_toDigits (by decide) (by decide) h

/-- Digits spell a number below the power of ten of their count. -/
theorem digitsValue_lt {ds : List Char} (digits : AllDigits ds) :
    digitsValue ds < 10 ^ ds.length := by
  have behind : ∀ n, ds.foldl (fun n c => n * 10 + (c.toNat - 48)) n < (n + 1) * 10 ^ ds.length := by
    induction ds with
    | nil => simp
    | cons c ds ih =>
      intro n
      obtain ⟨digit, digits⟩ := List.forall_mem_cons.mp digits
      have last : c.toNat ≤ 57 := of_decide_eq_true (Bool.and_eq_true_iff.mp digit).2
      have next : n * 10 + (c.toNat - 48) + 1 ≤ (n + 1) * 10 := by omega
      rw [List.foldl_cons, List.length_cons, Nat.pow_succ', ← Nat.mul_assoc]
      exact (ih digits _).trans_le (Nat.mul_le_mul_right _ next)
  have all := behind 0
  rwa [Nat.zero_add, Nat.one_mul] at all

theorem natText_ne_nil (n : Nat) : natText n ≠ [] := Nat.toDigits_ne_nil

/-- No number but zero starts with a zero. -/
theorem natText_of_zero_first {n : Nat} {r : List Char} (first : natText n = '0' :: r) :
    r = [] := by
  induction n using Nat.strong_induction_on generalizing r with
  | _ n ih =>
    by_cases small : n < 10
    · rw [natText, Nat.toDigits_of_lt_base small] at first
      exact (List.cons.inj first).2.symm
    · have large : 10 ≤ n := Nat.le_of_not_lt small
      have front : natText n = natText (n / 10) ++ [(n % 10).digitChar] :=
        Nat.toDigits_of_base_le (by decide) large
      cases lead : natText (n / 10) with
      | nil => exact absurd lead (natText_ne_nil _)
      | cons d ds =>
        rw [front, lead] at first
        obtain ⟨rfl, -⟩ := List.cons.inj first
        have alone := ih (n / 10) (by omega) lead
        have zero := digitsValue_natText (n / 10)
        rw [lead, alone] at zero
        have : digitsValue ['0'] = 0 := rfl
        omega
theorem natText_no_needless_zero (n : Nat) :
    ¬ ((natText n).head? = some '0' ∧ 1 < (natText n).length) := by
  rintro ⟨zero, long⟩
  obtain ⟨d, ds, text⟩ := List.exists_cons_of_ne_nil (natText_ne_nil n)
  rw [text] at zero long
  obtain rfl := Option.some.inj zero
  rw [natText_of_zero_first text] at long
  exact absurd long (by decide)

theorem digitsValue_append_zeros (ds : List Char) (k : Nat) :
    digitsValue (ds ++ List.replicate k '0') = digitsValue ds * 10 ^ k := by
  simp only [digitsValue_eq_ofDigitChars, Nat.ofDigitChars_append,
    Nat.ofDigitChars_replicate_zero]
  ring

theorem digitsValue_zeros_append (k : Nat) (ds : List Char) :
    digitsValue (List.replicate k '0' ++ ds) = digitsValue ds := by
  simp only [digitsValue_eq_ofDigitChars, Nat.ofDigitChars_append,
    Nat.ofDigitChars_replicate_zero, Nat.mul_zero]

theorem allDigits_replicate_zero (k : Nat) : AllDigits (List.replicate k '0') := by
  intro c hc
  rw [List.eq_of_mem_replicate hc]
  rfl

theorem AllDigits.append {as bs : List Char} (ha : AllDigits as) (hb : AllDigits bs) :
    AllDigits (as ++ bs) := by
  intro c hc
  rcases List.mem_append.mp hc with h | h
  · exact ha c h
  · exact hb c h

theorem AllDigits.of_subset {as bs : List Char} (hb : AllDigits bs)
    (sub : ∀ c ∈ as, c ∈ bs) : AllDigits as := fun c hc => hb c (sub c hc)

/-- Digits end where the first other character stands. -/
theorem takeWhile_digits {ds rest : List Char} (digits : AllDigits ds)
    (stop : ∀ c ∈ rest.head?, c.isDigit = false) :
    (ds ++ rest).takeWhile Char.isDigit = ds ∧ (ds ++ rest).dropWhile Char.isDigit = rest :=
  Text.takeWhile_run digits stop

/-- A digit is no sign. -/
theorem splitSign_of_digit {d : Char} (digit : d.isDigit = true) (rest : List Char) :
    splitSign (d :: rest) = (false, d :: rest) := by
  unfold splitSign
  split
  · rename_i h
    rw [(List.cons.inj h).1] at digit
    exact absurd digit (by decide)
  · rename_i h
    rw [(List.cons.inj h).1] at digit
    exact absurd digit (by decide)
  · rfl

end PointRelay.Decimal
