import PointRelay.Proofs.Decimal.Digits
import PointRelay.Time.Span

/-!
# The words of a span read back

The words of a span are its amounts, from years to nanoseconds, without those that are zero. The
reader adds what it reads part by part, and an amount of zero adds nothing, so it is enough to add
up all of them: seconds below the span's own, then nanoseconds below a second.
-/

namespace PointRelay.Time.Span

open Decimal

/-- Seconds that 64 bits hold, and nanoseconds below a second. -/
structure Fits (t : Span) : Prop where
  secs : t.secs < 0x10000000000000000
  nanos : t.nanos < 1000000000

/-! ## What is read fits -/

theorem fits_of_add? {t u : Span} {secs nanos : Nat} (added : t.add? secs nanos = some u) :
    u.Fits := by
  unfold add? word? at added
  by_cases low : t.nanos + nanos < 0x10000000000000000
  · simp only [low, if_true, Option.bind_eq_bind, Option.bind_some] at added
    by_cases high : t.secs + secs + (t.nanos + nanos) / 1000000000 < 0x10000000000000000
    · simp only [high, if_true, Option.bind_some, Option.some.injEq] at added
      subst added
      exact ⟨high, Nat.mod_lt _ (by decide)⟩
    · simp [high] at added
  · simp [low] at added

theorem fits_of_addWhole? {t u : Span} {n : Nat} {scale : Scale}
    (added : t.addWhole? n scale = some u) : u.Fits := by
  cases scale with
  | nanos per =>
    obtain ⟨_, -, added⟩ := Option.bind_eq_some_iff.mp added
    exact fits_of_add? added
  | secs per =>
    obtain ⟨_, -, added⟩ := Option.bind_eq_some_iff.mp added
    exact fits_of_add? added

theorem fits_of_addFraction? {t u : Span} {f : Fraction} {scale : Scale}
    (added : t.addFraction? f scale = some u) : u.Fits := by
  cases scale with
  | nanos per =>
    simp only [addFraction?] at added
    split at added
    · cases added
    · obtain ⟨_, -, added⟩ := Option.bind_eq_some_iff.mp added
      exact fits_of_add? added
  | secs per =>
    simp only [addFraction?] at added
    split at added
    · obtain ⟨_, -, added⟩ := Option.bind_eq_some_iff.mp added
      exact fits_of_add? added
    · obtain ⟨_, -, added⟩ := Option.bind_eq_some_iff.mp added
      exact fits_of_add? added

theorem fits_of_readPart? {t u : Span} {cs rest : List Char}
    (found : t.readPart? cs = some (u, rest)) : u.Fits := by
  obtain ⟨⟨n, r⟩, -, found⟩ := Option.bind_eq_some_iff.mp found
  obtain ⟨⟨f, r⟩, -, found⟩ := Option.bind_eq_some_iff.mp found
  obtain ⟨scale, -, found⟩ := Option.bind_eq_some_iff.mp found
  obtain ⟨whole, added, found⟩ := Option.bind_eq_some_iff.mp found
  cases f with
  | none =>
    obtain ⟨rfl, -⟩ := Prod.mk.inj (Option.some.inj found)
    exact fits_of_addWhole? added
  | some f =>
    obtain ⟨v, fraction, found⟩ := Option.bind_eq_some_iff.mp found
    obtain ⟨rfl, -⟩ := Prod.mk.inj (Option.some.inj found)
    exact fits_of_addFraction? fraction

theorem fits_of_readParts? {t u : Span} {fuel : Nat} {cs : List Char} (fits : t.Fits)
    (found : t.readParts? fuel cs = some u) : u.Fits := by
  induction fuel generalizing t cs with
  | zero => cases found
  | succ fuel ih =>
    unfold readParts? at found
    split at found
    · obtain rfl := Option.some.inj found
      exact fits
    · split at found
      · obtain ⟨⟨v, r⟩, part, found⟩ := Option.bind_eq_some_iff.mp found
        exact ih (fits_of_readPart? part) found
      · cases found

theorem fits_of_read? {t : Span} {s : String} (found : read? s = some t) : t.Fits := by
  have zero : zero.Fits := ⟨by decide, by decide⟩
  unfold read? at found
  split at found
  · obtain rfl := Option.some.inj found
    exact zero
  · simp only at found
    split at found
    · cases found
    · exact fits_of_readParts? zero found

/-! ## One part -/

/-- A unit as it is written: letters that the reader knows. -/
structure IsUnit (unit : String) : Prop where
  letters : unit.toList.all Char.isAlpha = true
  known : (scale? unit).isSome

theorem isUnitChar_of_isAlpha {c : Char} (letter : c.isAlpha = true) : isUnitChar c = true := by
  simp [isUnitChar, letter]

theorem digit_bounds {c : Char} (digit : c.isDigit = true) : 48 ≤ c.toNat ∧ c.toNat ≤ 57 := by
  simp only [Char.isDigit, Bool.and_eq_true, decide_eq_true_eq, ge_iff_le] at digit
  exact ⟨digit.1, digit.2⟩

theorem letter_bounds {c : Char} (letter : c.isAlpha = true) : 65 ≤ c.toNat ∧ c.toNat ≤ 122 := by
  rcases Bool.or_eq_true_iff.mp letter with upper | lower
  · have ⟨low, high⟩ := of_decide_eq_true upper
    exact ⟨low, le_trans high (by decide)⟩
  · have ⟨low, high⟩ := Bool.and_eq_true_iff.mp lower
    exact ⟨le_trans (by decide) (of_decide_eq_true low), of_decide_eq_true high⟩

theorem not_isBlank_of_bounds {c : Char} (low : 48 ≤ c.toNat) (high : c.toNat ≤ 122) :
    Text.isBlank c = false := by
  simp only [Text.isBlank, Bool.or_eq_false_iff, Bool.and_eq_false_iff, decide_eq_false_iff_not,
    beq_eq_false_iff_ne]
  omega

/-- The digits of a number are read up to what is neither a digit nor a blank. -/
theorem wholeDigits?_digits {n : Nat} {ds : List Char} {c : Char} {r : List Char}
    (digits : AllDigits ds)
    (fits : ds.foldl (fun n d => n * 10 + (d.toNat - 48)) n < 0x10000000000000000)
    (stop : c.isDigit = false) (dense : Text.isBlank c = false) :
    wholeDigits? n (ds ++ c :: r) =
      some (ds.foldl (fun n d => n * 10 + (d.toNat - 48)) n, c :: r) := by
  induction ds generalizing n with
  | nil => simp [wholeDigits?, stop, dense]
  | cons d ds ih =>
    have digit : d.isDigit = true := digits d List.mem_cons_self
    have later := ih (fun c hc => digits c (List.mem_cons_of_mem d hc)) fits
    -- what stands so far is at most what stands at the end
    have grows : ∀ (es : List Char) (m : Nat),
        m ≤ es.foldl (fun n d => n * 10 + (d.toNat - 48)) m := by
      intro es
      induction es with
      | nil => exact fun m => le_refl m
      | cons e es ih => exact fun m => le_trans (by omega) (ih (m * 10 + (e.toNat - 48)))
    have small : n * 10 + (d.toNat - 48) < 0x10000000000000000 := lt_of_le_of_lt (grows ds _) fits
    rw [List.cons_append, wholeDigits?, if_pos digit, pushDigit?, word?, if_pos small]
    exact later

/-- A part is read up to the end of its unit, and its amount is added. -/
theorem readPart?_amount {t u : Span} {n : Nat} {unit : String} {scale : Scale} {rest : List Char}
    (known : IsUnit unit) (measure : scale? unit = some scale)
    (added : t.addWhole? n scale = some u) (small : n < 0x10000000000000000)
    (ends : ∀ c ∈ rest.head?, isUnitChar c = false) :
    t.readPart? (natText n ++ (unit.toList ++ rest)) = some (u, rest) := by
  have alpha := List.all_eq_true.mp known.letters
  have units : ∀ c ∈ unit.toList, isUnitChar c = true :=
    fun c hc => isUnitChar_of_isAlpha (alpha c hc)
  have front := Text.takeWhile_run units ends
  cases letters : unit.toList with
  | nil =>
    rw [String.toList_eq_nil_iff.mp letters] at measure
    cases measure
  | cons c r =>
    have bounds := letter_bounds (alpha c (letters ▸ List.mem_cons_self))
    have digitless : c.isDigit = false := by
      cases digit : c.isDigit with
      | false => rfl
      | true =>
        have := digit_bounds digit
        omega
    have pointless : c ≠ '.' := by
      rintro rfl
      exact absurd bounds (by decide)
    have number := digitsValue_natText n
    have whole : wholeDigits? 0 (natText n ++ c :: (r ++ rest)) = some (n, c :: (r ++ rest)) := by
      have read := wholeDigits?_digits (n := 0) (r := r ++ rest) (allDigits_natText n)
        (lt_of_eq_of_lt number small) digitless (not_isBlank_of_bounds (by omega) bounds.2)
      rw [read]
      exact congrArg (fun n => some (n, c :: (r ++ rest))) number
    have plain : fraction? (c :: (r ++ rest)) = some (none, c :: (r ++ rest)) := by
      unfold fraction?
      split
      · rename_i h
        exact absurd (List.cons.inj h).1 pointless
      · rfl
    rw [letters, List.cons_append] at front
    rw [List.cons_append, readPart?, whole]
    simp only [Option.bind_eq_bind, Option.bind_some, plain, front.1, front.2, ← letters,
      String.ofList_toList, measure, added]

/-! ## All parts -/

/-- An amount of a unit. -/
structure Amount where
  number : Nat
  unit : String

def Amount.text (a : Amount) : String := toString a.number ++ a.unit

/-- A unit as it is written after a number. -/
def counted (n : Nat) (unit : String) : String := if 1 < n then unit ++ "s" else unit

/-- The amounts of a span, zeros among them. -/
def amounts (t : Span) : List Amount :=
  let inYear := t.secs % secondsPerYear
  let inMonth := inYear % secondsPerMonth
  let inDay := inMonth % 86400
  let years := t.secs / secondsPerYear
  let months := inYear / secondsPerMonth
  let days := inMonth / 86400
  [⟨years, counted years "year"⟩, ⟨months, counted months "month"⟩, ⟨days, counted days "day"⟩,
    ⟨inDay / 3600, "h"⟩, ⟨inDay % 3600 / 60, "m"⟩, ⟨inDay % 60, "s"⟩,
    ⟨t.nanos / 1000000, "ms"⟩, ⟨t.nanos / 1000 % 1000, "us"⟩, ⟨t.nanos % 1000, "ns"⟩]

/-- The amounts that are written. -/
def written (t : Span) : List Amount := t.amounts.filter (·.number ≠ 0)

theorem part_eq (n : Nat) (unit : String) :
    part n unit = (([⟨n, unit⟩] : List Amount).filter (·.number ≠ 0)).map Amount.text := by
  by_cases zero : n = 0
  · simp [part, zero]
  · simp [part, zero, Amount.text]

theorem words_eq (t : Span) :
    t.words = if t.written = [] then "0s" else " ".intercalate (t.written.map Amount.text) := by
  have parts : t.written.map Amount.text =
      plural (t.secs / secondsPerYear) "year" ++
        plural (t.secs % secondsPerYear / secondsPerMonth) "month" ++
        plural (t.secs % secondsPerYear % secondsPerMonth / 86400) "day" ++
        part (t.secs % secondsPerYear % secondsPerMonth % 86400 / 3600) "h" ++
        part (t.secs % secondsPerYear % secondsPerMonth % 86400 % 3600 / 60) "m" ++
        part (t.secs % secondsPerYear % secondsPerMonth % 86400 % 60) "s" ++
        part (t.nanos / 1000000) "ms" ++ part (t.nanos / 1000 % 1000) "us" ++
        part (t.nanos % 1000) "ns" := by
    simp only [plural, part_eq, ← List.map_append, ← List.filter_append]
    rfl
  unfold words
  simp only [← parts, List.isEmpty_iff, List.map_eq_nil_iff]

/-- Add amounts one by one. -/
def addAll? (t : Span) (as : List Amount) : Option Span :=
  as.foldlM (fun t a => (scale? a.unit).bind (t.addWhole? a.number)) t

structure Amount.Writable (a : Amount) : Prop where
  unit : IsUnit a.unit
  small : a.number < 0x10000000000000000

/-- The texts of amounts with a blank before each. -/
def spaced (as : List Amount) : List Char := as.flatMap fun a => ' ' :: a.text.toList

theorem length_le_spaced (as : List Amount) : as.length ≤ (spaced as).length := by
  induction as with
  | nil => exact le_refl 0
  | cons a as ih =>
    simp only [spaced, List.flatMap_cons, List.length_append, List.length_cons] at ih ⊢
    omega

theorem readParts?_blank (t : Span) (fuel : Nat) (cs : List Char) :
    t.readParts? fuel (' ' :: cs) = t.readParts? fuel cs := by
  cases fuel with
  | zero => rfl
  | succ fuel => rfl

theorem text_eq (a : Amount) : a.text.toList = natText a.number ++ a.unit.toList := by
  rw [Amount.text, String.toList_append]
  exact congrArg (· ++ a.unit.toList) Nat.toList_repr

/-- Reading amounts adds them up. -/
theorem readParts?_spaced {t u : Span} {as : List Amount} (writable : ∀ a ∈ as, a.Writable)
    (sum : t.addAll? as = some u) {fuel : Nat} (enough : as.length < fuel) :
    t.readParts? fuel (spaced as) = some u := by
  induction as generalizing t fuel with
  | nil =>
    obtain ⟨fuel, rfl⟩ := Nat.exists_eq_add_one_of_ne_zero (Nat.ne_of_gt enough)
    exact sum
  | cons a as ih =>
    have some_fuel : fuel ≠ 0 := Nat.ne_of_gt (Nat.zero_lt_of_lt enough)
    obtain ⟨fuel, rfl⟩ := Nat.exists_eq_add_one_of_ne_zero some_fuel
    obtain ⟨v, added, sum⟩ := Option.bind_eq_some_iff.mp sum
    obtain ⟨scale, measure, added⟩ := Option.bind_eq_some_iff.mp added
    have ⟨unit, small⟩ := writable a List.mem_cons_self
    have ends : ∀ c ∈ (spaced as).head?, isUnitChar c = false := by
      intro c hc
      cases as with
      | nil => cases hc
      | cons b bs =>
        obtain rfl := Option.some.inj hc
        rfl
    have first := readPart?_amount unit measure added small ends
    have later := ih (fun b hb => writable b (List.mem_cons_of_mem a hb)) sum
      (Nat.lt_of_succ_lt_succ enough)
    have shape : spaced (a :: as) = ' ' :: (natText a.number ++ (a.unit.toList ++ spaced as)) := by
      simp [spaced, text_eq]
    rw [shape, readParts?_blank]
    cases digits : natText a.number with
    | nil => exact absurd digits (natText_ne_nil _)
    | cons d ds =>
      have digit : d.isDigit = true := allDigits_natText a.number d (digits ▸ List.mem_cons_self)
      have dense : Text.isBlank d = false := by
        have bounds := digit_bounds digit
        exact not_isBlank_of_bounds bounds.1 (by omega)
      rw [digits, List.cons_append] at first
      rw [List.cons_append, readParts?, Text.trimLeft, List.dropWhile_cons_of_neg (by simp [dense])]
      simp only [digit, if_true, first, Option.bind_eq_bind, Option.bind_some]
      exact later

/-! ## The sum -/

theorem addWhole?_zero {t : Span} (fits : t.Fits) (scale : Scale) :
    t.addWhole? 0 scale = some t := by
  have whole : t.add? 0 0 = some t := by
    have ⟨secs, nanos⟩ := fits
    have low : t.nanos < 0x10000000000000000 := by omega
    have none : t.nanos / 1000000000 = 0 := by omega
    simp [add?, word?, low, secs, none, Nat.mod_eq_of_lt nanos]
  cases scale with
  | nanos per => simpa [addWhole?, word?] using whole
  | secs per => simpa [addWhole?, word?] using whole

/-- Amounts of zero add nothing. -/
theorem addAll?_filter {t : Span} (fits : t.Fits) {as : List Amount}
    (known : ∀ a ∈ as, (scale? a.unit).isSome) :
    t.addAll? (as.filter (·.number ≠ 0)) = t.addAll? as := by
  induction as generalizing t with
  | nil => rfl
  | cons a as ih =>
    have later := fun u (h : Fits u) => ih h fun b hb => known b (List.mem_cons_of_mem a hb)
    obtain ⟨scale, measure⟩ := Option.isSome_iff_exists.mp (known a List.mem_cons_self)
    by_cases zero : a.number = 0
    · rw [List.filter_cons_of_neg (by simp [zero]), later t fits]
      simp only [addAll?, List.foldlM_cons, measure, zero, Option.bind_some, addWhole?_zero fits,
        Option.bind_eq_bind]
    · rw [List.filter_cons_of_pos (by simp [zero])]
      simp only [addAll?, List.foldlM_cons, measure, Option.bind_some, Option.bind_eq_bind]
      cases added : t.addWhole? a.number scale with
      | none => rfl
      | some u => exact later u (fits_of_addWhole? added)

theorem addWhole?_secs {secs n per : Nat} (small : secs + n * per < 0x10000000000000000) :
    addWhole? ⟨secs, 0⟩ n (.secs per) = some ⟨secs + n * per, 0⟩ := by
  have product : n * per < 0x10000000000000000 := by omega
  simp [addWhole?, add?, word?, product, small]

theorem addWhole?_nanos {secs nanos n per : Nat} (fits : secs < 0x10000000000000000)
    (small : nanos + n * per < 1000000000) :
    addWhole? ⟨secs, nanos⟩ n (.nanos per) = some ⟨secs, nanos + n * per⟩ := by
  have product : n * per < 0x10000000000000000 := by omega
  have low : nanos + n * per < 0x10000000000000000 := by omega
  have none : (nanos + n * per) / 1000000000 = 0 := by omega
  simp [addWhole?, add?, word?, product, low, none, fits, Nat.mod_eq_of_lt small]

/-- A counted unit is known with and without its `s`. -/
theorem isUnit_counted {unit : String} {scale : Scale} (one : scale? unit = some scale)
    (many : scale? (unit ++ "s") = some scale) (letters : unit.toList.all Char.isAlpha = true)
    (n : Nat) : IsUnit (counted n unit) ∧ scale? (counted n unit) = some scale := by
  unfold counted
  split
  · refine ⟨⟨?_, many ▸ rfl⟩, many⟩
    rw [String.toList_append, List.all_append, letters]
    rfl
  · exact ⟨⟨letters, one ▸ rfl⟩, one⟩

theorem year_counted (n : Nat) : IsUnit (counted n "year") ∧
    scale? (counted n "year") = some (.secs secondsPerYear) :=
  isUnit_counted rfl rfl rfl n

theorem month_counted (n : Nat) : IsUnit (counted n "month") ∧
    scale? (counted n "month") = some (.secs secondsPerMonth) :=
  isUnit_counted rfl rfl rfl n

theorem day_counted (n : Nat) : IsUnit (counted n "day") ∧
    scale? (counted n "day") = some (.secs 86400) :=
  isUnit_counted rfl rfl rfl n

theorem writable_of_mem_amounts {t : Span} (fits : t.Fits) :
    ∀ a ∈ t.amounts, a.Writable := by
  obtain ⟨secs, nanos⟩ := fits
  have below : t.secs % secondsPerYear % secondsPerMonth < 0x10000000000000000 :=
    lt_of_le_of_lt (Nat.mod_le _ _) (lt_of_le_of_lt (Nat.mod_le _ _) secs)
  have short : ∀ {n : Nat} {unit : String}, unit.toList.all Char.isAlpha = true →
      (scale? unit).isSome → n < 0x10000000000000000 → (⟨n, unit⟩ : Amount).Writable :=
    fun letters known small => ⟨⟨letters, known⟩, small⟩
  intro a mem
  simp only [amounts, List.mem_cons, List.not_mem_nil, or_false] at mem
  rcases mem with rfl | rfl | rfl | rfl | rfl | rfl | rfl | rfl | rfl
  · exact ⟨(year_counted _).1, lt_of_le_of_lt (Nat.div_le_self _ _) secs⟩
  · exact ⟨(month_counted _).1, lt_of_le_of_lt (Nat.div_le_self _ _)
      (lt_of_le_of_lt (Nat.mod_le _ _) secs)⟩
  · exact ⟨(day_counted _).1, lt_of_le_of_lt (Nat.div_le_self _ _) below⟩
  · exact short rfl rfl (by omega)
  · exact short rfl rfl (by omega)
  · exact short rfl rfl (by omega)
  · exact short rfl rfl (by omega)
  · exact short rfl rfl (by omega)
  · exact short rfl rfl (by omega)

theorem addAll?_cons {t u : Span} {n : Nat} {unit : String} {scale : Scale}
    (measure : scale? unit = some scale) (added : t.addWhole? n scale = some u)
    (as : List Amount) : t.addAll? (⟨n, unit⟩ :: as) = u.addAll? as := by
  simp only [addAll?, List.foldlM_cons, measure, Option.bind_some, added, Option.bind_eq_bind]

/-- Seconds are added first, then nanoseconds. -/
theorem addAll?_parts {years months days hours minutes seconds millis micros nanos : Nat}
    (small : years * secondsPerYear + months * secondsPerMonth + days * 86400 + hours * 3600 +
      minutes * 60 + seconds < 0x10000000000000000)
    (low : millis * 1000000 + micros * 1000 + nanos < 1000000000) :
    zero.addAll? [⟨years, counted years "year"⟩, ⟨months, counted months "month"⟩,
        ⟨days, counted days "day"⟩, ⟨hours, "h"⟩, ⟨minutes, "m"⟩, ⟨seconds, "s"⟩, ⟨millis, "ms"⟩,
        ⟨micros, "us"⟩, ⟨nanos, "ns"⟩] =
      some ⟨years * secondsPerYear + months * secondsPerMonth + days * 86400 + hours * 3600 +
        minutes * 60 + seconds, millis * 1000000 + micros * 1000 + nanos⟩ := by
  rw [zero, addAll?_cons (year_counted years).2 (addWhole?_secs (by omega)),
    addAll?_cons (month_counted months).2 (addWhole?_secs (by omega)),
    addAll?_cons (day_counted days).2 (addWhole?_secs (by omega)),
    addAll?_cons (show _ = some (.secs 3600) from rfl) (addWhole?_secs (by omega)),
    addAll?_cons (show _ = some (.secs 60) from rfl) (addWhole?_secs (by omega)),
    addAll?_cons (show _ = some (.secs 1) from rfl) (addWhole?_secs (by omega)),
    addAll?_cons (show _ = some (.nanos 1000000) from rfl) (addWhole?_nanos (by omega) (by omega)),
    addAll?_cons (show _ = some (.nanos 1000) from rfl) (addWhole?_nanos (by omega) (by omega)),
    addAll?_cons (show _ = some (.nanos 1) from rfl) (addWhole?_nanos (by omega) (by omega))]
  simp [addAll?]

/-- The amounts of a span add up to it. -/
theorem addAll?_amounts {t : Span} (fits : t.Fits) : zero.addAll? t.amounts = some t := by
  obtain ⟨secs, nanos⟩ := t
  obtain ⟨(small : secs < _), (low : nanos < _)⟩ := fits
  have year := Nat.div_add_mod' secs secondsPerYear
  have month := Nat.div_add_mod' (secs % secondsPerYear) secondsPerMonth
  have seconds : secs / secondsPerYear * secondsPerYear +
      secs % secondsPerYear / secondsPerMonth * secondsPerMonth +
      secs % secondsPerYear % secondsPerMonth / 86400 * 86400 +
      secs % secondsPerYear % secondsPerMonth % 86400 / 3600 * 3600 +
      secs % secondsPerYear % secondsPerMonth % 86400 % 3600 / 60 * 60 +
      secs % secondsPerYear % secondsPerMonth % 86400 % 60 = secs := by
    omega
  have below : nanos / 1000000 * 1000000 + nanos / 1000 % 1000 * 1000 + nanos % 1000 = nanos := by
    omega
  have sum := addAll?_parts (lt_of_eq_of_lt seconds small) (lt_of_eq_of_lt below low)
  rw [seconds, below] at sum
  exact sum

/-- The texts with blanks between them, and one in front. -/
theorem spaced_eq (a : Amount) (as : List Amount) :
    spaced (a :: as) = ' ' :: (" ".intercalate ((a :: as).map Amount.text)).toList := by
  rw [List.map_cons, Text.toList_intercalate_cons, List.flatMap_map]
  rfl

/-- What is written starts with a digit and goes on. -/
theorem text_shape (a : Amount) (writable : a.Writable) :
    ∃ d e r, a.text.toList = d :: e :: r ∧ d.isDigit = true := by
  have digits := allDigits_natText a.number
  rw [text_eq]
  cases number : natText a.number with
  | nil => exact absurd number (natText_ne_nil _)
  | cons d ds =>
    rw [number] at digits
    have digit : d.isDigit = true := digits d List.mem_cons_self
    cases unit : a.unit.toList with
    | nil =>
      have known := writable.unit.known
      rw [String.toList_eq_nil_iff.mp unit] at known
      cases known
    | cons c r =>
      cases ds with
      | nil => exact ⟨d, c, r, rfl, digit⟩
      | cons e es => exact ⟨d, e, es ++ c :: r, rfl, digit⟩

/-- The words of any span that fits read back to it, to the nanosecond. -/
theorem read?_words {t : Span} (fits : t.Fits) : read? t.words = some t := by
  have writable := writable_of_mem_amounts fits
  have start : zero.Fits := ⟨by decide, by decide⟩
  have sum : zero.addAll? t.written = some t := by
    rw [written, addAll?_filter start fun a mem => (writable a mem).unit.known]
    exact addAll?_amounts fits
  have each : ∀ a ∈ t.written, a.Writable := fun a mem => writable a (List.mem_filter.mp mem).1
  rw [words_eq]
  cases parts : t.written with
  | nil =>
    rw [parts] at sum
    rw [← sum]
    rfl
  | cons a as =>
    rw [parts] at sum each
    have text := spaced_eq a as
    obtain ⟨d, e, r, first, digit⟩ := text_shape a (each a List.mem_cons_self)
    have bounds := digit_bounds digit
    have dense : Text.isBlank d = false := not_isBlank_of_bounds bounds.1 (by omega)
    have shape : spaced (a :: as) = ' ' :: d :: e :: (r ++ spaced as) := by
      rw [spaced, List.flatMap_cons, first]
      rfl
    have enough : (a :: as).length < (spaced (a :: as)).length := by
      have := length_le_spaced as
      simp only [shape, List.length_cons, List.length_append]
      omega
    have found := readParts?_spaced each sum enough
    rw [if_neg (List.cons_ne_nil a as), read?]
    generalize " ".intercalate ((a :: as).map Amount.text) = s at *
    have chars : s.toList = d :: e :: (r ++ spaced as) := (List.cons.inj (text.symm.trans shape)).2
    have not_zero : s ≠ "0" := by
      rintro rfl
      exact nomatch (List.cons.inj chars).2
    have kept : Text.trimLeft s.toList = s.toList := by
      rw [chars, Text.trimLeft, List.dropWhile_cons_of_neg (by simp [dense])]
    rw [text, List.length_cons, readParts?_blank] at found
    simp only [if_neg not_zero, kept]
    rw [if_neg (by simp [chars])]
    exact found

end PointRelay.Time.Span
