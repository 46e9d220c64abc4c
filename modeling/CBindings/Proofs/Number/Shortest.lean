import CBindings.Proofs.Number.Nearest
import Mathlib.Data.Nat.Cast.Order.Field
import Mathlib.Tactic.LinearCombination

/-! The text of a floating-point number reads back as the number. The digits that are chosen lie between the points
halfway to its neighbours, and laying them out keeps their value. -/
namespace CBindings

section Digits

variable {m : Nat} {e : Int} {i : Binary64.Interval} {step : ℚ}

namespace Binary64

/-- What an interval counts: a number and the points halfway to its neighbours, in steps over the denominator. -/
structure Interval.Counts (i : Interval) (m : Nat) (e : Int) (step : ℚ) : Prop where
  positive : 0 < i.denominator
  value : (i.value : ℚ) = m * 2 ^ e / step * i.denominator
  low : (i.low : ℚ) = (m - binary64.gap m e) * 2 ^ e / step * i.denominator
  high : (i.high : ℚ) = (m + 1 / 2) * 2 ^ e / step * i.denominator
  closed : i.closed = (m % 2 == 0)

theorem interval_eq (m : Nat) (e : Int) : ∃ scale den : Nat, 0 < den ∧ (4 * scale : ℚ) = 2 ^ e * den ∧
    interval m e = ⟨4 * m * scale, (4 * m - if m = Nat.pow 2 52 ∧ -1074 < e then 1 else 2) * scale,
      (4 * m + 2) * scale, den, m % 2 == 0⟩ := by
  unfold interval
  by_cases up : 0 ≤ e - 2
  · refine ⟨2 ^ (e - 2).toNat, 1, Nat.one_pos, ?_, by simp only [if_pos up, Nat.pow_eq]⟩
    have shifted : e = 2 + ((e - 2).toNat : Int) := by omega
    nth_rewrite 2 [shifted]
    rw [zpow_add₀ two_ne_zero, zpow_natCast]
    norm_num
  · refine ⟨1, 2 ^ (-(e - 2)).toNat, Nat.two_pow_pos _, ?_, by simp only [if_neg up, Nat.pow_eq]⟩
    push_cast
    rw [← zpow_natCast, ← zpow_add₀ two_ne_zero, Int.toNat_of_nonneg (by omega)]
    norm_num

theorem interval_counts (nonzero : m ≠ 0) (e : Int) : (interval m e).Counts m e 1 := by
  have quarters : ((4 * m - if m = Nat.pow 2 52 ∧ -1074 < e then 1 else 2 : Nat) : ℚ) =
      4 * (m - binary64.gap m e) := by
    have gap : binary64.gap m e = if m = Nat.pow 2 52 ∧ -1074 < e then 1 / 4 else 1 / 2 := rfl
    rw [gap]
    split
    · rw [Nat.cast_sub (by omega)]
      push_cast
      ring
    · rw [Nat.cast_sub (by omega)]
      push_cast
      ring
  obtain ⟨scale, den, positive, ratio, counted⟩ := interval_eq m e
  rw [counted]
  refine ⟨positive, ?_, ?_, ?_, rfl⟩
  · push_cast
    linear_combination m * ratio
  · rw [Nat.cast_mul, quarters]
    linear_combination (m - binary64.gap m e) * ratio
  · push_cast
    linear_combination (m + 1 / 2) * ratio

theorem Interval.Counts.onGrid (counts : i.Counts m e 1) (k : Int) : (i.onGrid k).Counts m e (10 ^ k) := by
  obtain ⟨positive, value, low, high, closed⟩ := counts
  unfold Interval.onGrid
  simp only [Nat.pow_eq]
  split
  · rename_i up
    have power : (10 : ℚ) ^ k = 10 ^ k.toNat := by rw [← zpow_natCast, Int.toNat_of_nonneg up]
    refine ⟨by positivity, ?_, ?_, ?_, closed⟩ <;> push_cast
    · rw [value, power]
      field_simp
    · rw [low, power]
      field_simp
    · rw [high, power]
      field_simp
  · rename_i down
    have power : (10 : ℚ) ^ k = (10 ^ (-k).toNat)⁻¹ := by
      rw [← zpow_natCast, Int.toNat_of_nonneg (by omega), zpow_neg, inv_inv]
    refine ⟨positive, ?_, ?_, ?_, closed⟩ <;> push_cast
    · rw [value, power]
      field_simp
    · rw [low, power]
      field_simp
    · rw [high, power]
      field_simp

theorem Interval.Counts.holds_iff (counts : i.Counts m e step) (large : 0 < step) (d : Nat) :
    i.holds d = true ↔ binary64.Nearest m e (d * step) := by
  obtain ⟨positive, -, low, high, closed⟩ := counts
  have positive : (0 : ℚ) < i.denominator := by exact_mod_cast positive
  have lowIff : i.low ≤ d * i.denominator ↔ (m - binary64.gap m e) * 2 ^ e ≤ d * step := by
    rw [← Nat.cast_le (α := ℚ), Nat.cast_mul, low, mul_le_mul_iff_left₀ positive, div_le_iff₀ large]
  have highIff : d * i.denominator ≤ i.high ↔ d * step ≤ (m + 1 / 2) * 2 ^ e := by
    rw [← Nat.cast_le (α := ℚ), Nat.cast_mul, high, mul_le_mul_iff_left₀ positive, le_div_iff₀ large]
  have aboveIff : i.low < d * i.denominator ↔ (m - binary64.gap m e) * 2 ^ e < d * step := by
    rw [← Nat.cast_lt (α := ℚ), Nat.cast_mul, low, mul_lt_mul_iff_left₀ positive, div_lt_iff₀ large]
  have belowIff : d * i.denominator < i.high ↔ d * step < (m + 1 / 2) * 2 ^ e := by
    rw [← Nat.cast_lt (α := ℚ), Nat.cast_mul, high, mul_lt_mul_iff_left₀ positive, lt_div_iff₀ large]
  unfold Interval.holds
  rw [closed]
  by_cases even : m % 2 = 0
  · simp only [even, beq_self_eq_true, if_true, Bool.and_eq_true, decide_eq_true_eq, lowIff, highIff]
    exact ⟨fun within => ⟨within.1, within.2, by omega⟩, fun near => ⟨near.low, near.high⟩⟩
  · simp only [even, beq_iff_eq, if_false, Bool.and_eq_true, decide_eq_true_eq, aboveIff, belowIff]
    exact ⟨fun within => ⟨within.1.le, within.2.le, fun _ => within⟩, fun near => near.inner (by omega)⟩

theorem Interval.holds_candidate {d : Nat} (found : i.candidate = some d) : i.holds d = true := by
  unfold Interval.candidate at found
  dsimp only at found
  split at found
  · rename_i lower upper
    cases found
    unfold roundQuotient
    dsimp only
    split
    · exact upper
    · exact lower
  · rename_i lower _
    cases found
    exact lower
  · rename_i _ upper
    cases found
    exact upper
  · cases found

/- With one digit more than is ever needed, cutting off is good enough. -/
theorem nearest_of_cut (fits : m < 2 ^ 53) (counts : i.Counts m e step) (large : 0 < step)
    (fine : step * 10 ^ 17 ≤ m * 2 ^ e) : binary64.Nearest m e ((i.value / i.denominator : Nat) * step) := by
  have unit : (0 : ℚ) < 2 ^ e := by positivity
  have fits : (m : ℚ) < 2 ^ 53 := by exact_mod_cast fits
  have positive : (0 : ℚ) < i.denominator := by exact_mod_cast counts.positive
  have wide := (binary64.gap_bounds m e).1
  have quotient : (i.value / i.denominator : ℚ) = m * 2 ^ e / step := by
    rw [counts.value, mul_div_cancel_right₀ _ positive.ne']
  have cut : ((i.value / i.denominator : Nat) : ℚ) * step ≤ m * 2 ^ e := by
    rw [← le_div_iff₀ large, ← quotient]
    exact Nat.cast_div_le
  have next : (m * 2 ^ e : ℚ) < ((i.value / i.denominator : Nat) + 1) * step := by
    rw [← div_lt_iff₀ large, ← quotient, div_lt_iff₀ positive]
    exact_mod_cast Nat.lt_mul_of_div_lt (Nat.lt_succ_self _) counts.positive
  generalize ((i.value / i.denominator : Nat) : ℚ) = d at cut next ⊢
  have short : step < 1 / 4 * 2 ^ e := by nlinarith
  refine ⟨?_, ?_, fun _ => ⟨?_, ?_⟩⟩ <;> nlinarith

theorem shortestFrom_nearest (fits : m < 2 ^ 53) (counts : i.Counts m e 1) {top : Int}
    (reached : (10 : ℚ) ^ top ≤ m * 2 ^ e) (fuel n : Nat) (all : fuel + n = 17) :
    binary64.Nearest m e ((shortestFrom i top fuel n).1 * 10 ^ (shortestFrom i top fuel n).2) := by
  induction fuel generalizing n with
  | zero =>
    obtain rfl : n = 17 := by omega
    apply nearest_of_cut fits (counts.onGrid _) (by positivity)
    rw [← zpow_natCast, ← zpow_add₀ (by norm_num)]
    simpa using reached
  | succ fuel ih =>
    unfold shortestFrom
    split
    · rename_i d found
      exact ((counts.onGrid _).holds_iff (by positivity) d).mp (Interval.holds_candidate found)
    · exact ih (n + 1) (by omega)

theorem shortest_nearest (fits : m < 2 ^ 53) (nonzero : m ≠ 0) (e : Int) :
    binary64.Nearest m e ((shortest m e).1 * 10 ^ (shortest m e).2) := by
  have counts := interval_counts nonzero e
  have positive : (0 : ℚ) < (interval m e).denominator := by exact_mod_cast counts.positive
  have quotient : ((interval m e).value / (interval m e).denominator : ℚ) = m * 2 ^ e := by
    rw [counts.value, mul_div_cancel_right₀ _ positive.ne', div_one]
  have some : (interval m e).value ≠ 0 := by
    have above : (0 : ℚ) < (interval m e).value := by
      rw [counts.value]
      have least : (0 : ℚ) < m := by exact_mod_cast Nat.pos_of_ne_zero nonzero
      positivity
    exact_mod_cast above.ne'
  have reached := (decimalExponent_bounds some counts.positive).1
  rw [quotient] at reached
  exact shortestFrom_nearest fits counts reached 17 0 rfl

end Binary64

end Digits

section Layout

/- Nothing but the character in question is taken off the end. -/
theorem Text.stripEnd_append (c : Char) (s : List Char) :
    ∃ k, s = Text.stripEnd (· == c) s ++ List.replicate k c := by
  have run : s.reverse.takeWhile (· == c) = List.replicate (s.reverse.takeWhile (· == c)).length c :=
    List.eq_replicate_of_mem fun d inside => by simpa using List.mem_takeWhile_imp inside
  refine ⟨(s.reverse.takeWhile (· == c)).length, ?_⟩
  rw [← List.reverse_replicate, ← run, Text.stripEnd, ← List.reverse_append, List.takeWhile_append_dropWhile,
    List.reverse_reverse]

namespace Number

theorem valueFrom_append (n : Nat) (xs ys : List Char) : valueFrom n (xs ++ ys) = valueFrom (valueFrom n xs) ys :=
  List.foldl_append

theorem valueFrom_zeros (n k : Nat) : valueFrom n (List.replicate k '0') = n * 10 ^ k := by
  induction k generalizing n with
  | zero => simp [valueFrom]
  | succ k ih =>
    have later := ih (n * 10)
    rw [List.replicate_succ, Nat.pow_succ', ← Nat.mul_assoc, ← later]
    rfl

theorem digitsValue_append_zeros (ds : List Char) (k : Nat) :
    digitsValue 10 (ds ++ List.replicate k '0') = digitsValue 10 ds * 10 ^ k := by
  rw [digitsValue_eq, valueFrom_append, valueFrom_zeros, digitsValue_eq]

theorem digitsValue_zeros_append (k : Nat) (ds : List Char) :
    digitsValue 10 (List.replicate k '0' ++ ds) = digitsValue 10 ds := by
  rw [digitsValue_eq, valueFrom_append, valueFrom_zeros, Nat.zero_mul, digitsValue_eq]

namespace Written

/-- The number that is written, its sign apart. -/
def magnitude (w : Written) : ℚ := digitsValue 10 (w.whole ++ w.part) * 10 ^ (w.exponent.getD 0 - w.part.length)

/-- The characters `s` show the number `0.d₁d₂… * 10 ^ point`, with a point or an exponent. -/
structure Shows (w : Written) (s ds : List Char) (point : Int) : Prop where
  notWhole : w.isWhole = false
  unsigned : w.unsigned = s
  magnitude : w.magnitude = digitsValue 10 ds * 10 ^ (point - ds.length)

variable {ds : List Char}

theorem shows_scientific (negative : Bool) (d : Char) {rest : List Char} (digits : ∀ c ∈ d :: rest, c.isDigit = true)
    (point : Int) : Shows ⟨negative, [d], rest, some (point - 1), by simp, digits⟩
      (d :: ((if rest.isEmpty then [] else '.' :: rest) ++ Binary64.exponentText (point - 1))) (d :: rest) point := by
  refine ⟨by simp [isWhole], rfl, ?_⟩
  have shifted : point - 1 - (rest.length : Int) = point - ((d :: rest).length : Int) := by
    rw [List.length_cons]
    omega
  simp only [magnitude, Option.getD_some, List.singleton_append, shifted]

theorem isDigit_append_zeros (digits : ∀ c ∈ ds, c.isDigit = true) (k : Nat) :
    ∀ c ∈ ds ++ List.replicate k '0', c.isDigit = true := by
  intro c inside
  rcases List.mem_append.mp inside with inside | inside
  · exact digits c inside
  · rw [(List.mem_replicate.mp inside).2]
    rfl

theorem isDigit_zeros_append (digits : ∀ c ∈ ds, c.isDigit = true) (k : Nat) :
    ∀ c ∈ List.replicate k '0' ++ ds, c.isDigit = true := by
  intro c inside
  exact isDigit_append_zeros digits k c (List.mem_append.mpr (List.mem_append.mp inside).symm)

theorem shows_small (negative : Bool) (nonempty : ds ≠ []) (digits : ∀ c ∈ ds, c.isDigit = true) {point : Int}
    (small : point ≤ 0) :
    Shows ⟨negative, ['0'], List.replicate (-point).toNat '0' ++ ds, none, by simp,
        isDigit_zeros_append digits ((-point).toNat + 1)⟩
      ('0' :: '.' :: List.replicate (-point).toNat '0' ++ ds) ds point := by
  refine ⟨by simp [isWhole, nonempty], by simp [Written.unsigned, tail, exponentChars, nonempty], ?_⟩
  have length : (0 : Int) - (List.replicate (-point).toNat '0' ++ ds).length = point - ds.length := by
    rw [List.length_append, List.length_replicate]
    omega
  have value : digitsValue 10 (['0'] ++ (List.replicate (-point).toNat '0' ++ ds)) = digitsValue 10 ds :=
    digitsValue_zeros_append ((-point).toNat + 1) ds
  simp only [magnitude, Option.getD_none, value, length]

theorem shows_padded (negative : Bool) (nonempty : ds ≠ []) (digits : ∀ c ∈ ds, c.isDigit = true) {n : Nat}
    (long : ds.length ≤ n) :
    Shows ⟨negative, ds ++ List.replicate (n - ds.length) '0', ['0'], none, by simp [nonempty],
        isDigit_append_zeros (isDigit_append_zeros digits _) 1⟩
      (ds ++ List.replicate (n - ds.length) '0' ++ ['.', '0']) ds n := by
  refine ⟨rfl, by simp [Written.unsigned, tail, exponentChars], ?_⟩
  have value : digitsValue 10 (ds ++ List.replicate (n - ds.length) '0' ++ ['0']) =
      digitsValue 10 ds * 10 ^ (n - ds.length) * 10 := by
    rw [← digitsValue_append_zeros]
    exact digitsValue_append_zeros _ 1
  have power : (10 : ℚ) ^ (n - ds.length) = 10 ^ ((n : Int) - ds.length) := by
    rw [← zpow_natCast]
    congr 1
    omega
  simp only [magnitude, Option.getD_none, value]
  push_cast
  rw [power]
  norm_num [mul_assoc]

theorem shows_cut (negative : Bool) (digits : ∀ c ∈ ds, c.isDigit = true) {n : Nat} (some : 0 < n)
    (short : n < ds.length) :
    Shows ⟨negative, ds.take n, ds.drop n, none, by simp [← List.length_pos_iff]; omega,
        (List.take_append_drop n ds).symm ▸ digits⟩
      (ds.take n ++ '.' :: ds.drop n) ds n := by
  have rest : (ds.drop n).isEmpty = false := by
    simp
    omega
  refine ⟨by simp only [isWhole, rest, Bool.false_and], by simp [Written.unsigned, tail, exponentChars, rest], ?_⟩
  have length : (0 : Int) - (ds.drop n).length = n - ds.length := by
    rw [List.length_drop]
    omega
  simp only [magnitude, Option.getD_none, List.take_append_drop, length]

theorem exists_shows_layOut (negative : Bool) (nonempty : ds ≠ []) (digits : ∀ c ∈ ds, c.isDigit = true)
    (point : Int) : ∃ w : Written, w.negative = negative ∧ w.Shows (Binary64.layOut ds point) ds point := by
  unfold Binary64.layOut
  split
  · obtain ⟨d, rest, rfl⟩ := List.exists_cons_of_ne_nil nonempty
    have shows := shows_scientific negative d digits point
    cases rest with
    | nil => exact ⟨_, rfl, shows⟩
    | cons c rest => exact ⟨_, rfl, shows⟩
  · split
    · exact ⟨_, rfl, shows_small negative nonempty digits ‹_›⟩
    · obtain ⟨n, rfl⟩ := Int.eq_ofNat_of_zero_le (show 0 ≤ point by omega)
      rw [Int.toNat_natCast]
      dsimp only
      split
      · exact ⟨_, rfl, shows_padded negative nonempty digits ‹_›⟩
      · exact ⟨_, rfl, shows_cut negative digits (by omega) (by omega)⟩

end Written

end Number

end Layout

/-- A finite number is written with a point or an exponent, and what is written reads as the number. -/
theorem Binary64.text_written {m : Nat} {e : Int} (canonical : binary64.Canonical m e) (negative : Bool) :
    ∃ w : Number.Written, w.isWhole = false ∧ (finite negative m e).text.toList = w.text ∧
      Number.readDecimal w.text = some (.finite negative m e) := by
  by_cases zero : m = 0
  · subst zero
    have least : e = -1074 := canonical.filled.resolve_left (Nat.not_le.mpr (Nat.two_pow_pos _))
    refine ⟨⟨negative, ['0'], ['0'], none, by simp, by simp⟩, rfl, ?_, ?_⟩
    · cases negative <;> simp [text, Number.Written.text, Number.Written.unsigned, Number.Written.tail,
        Number.Written.exponentChars]
    · rw [Number.Written.readDecimal_text, least]
      rfl
  · have near := shortest_nearest canonical.fits zero e
    obtain ⟨d, k, chosen⟩ : ∃ d k, shortest m e = (d, k) := ⟨_, _, rfl⟩
    simp only [chosen] at near
    have value := Number.digitsValue_toDigits d
    have digits := Number.isDigit_toDigits d
    obtain ⟨zeros, parts⟩ := Text.stripEnd_append '0' (Nat.toDigits 10 d)
    have body : (finite negative m e).text.toList =
        (if negative then ['-'] else []) ++ layOut (Text.stripEnd (· == '0') (Nat.toDigits 10 d))
          (k + (Nat.toDigits 10 d).length) := by
      cases negative <;> simp [text, zero, chosen]
    rw [body]
    generalize Text.stripEnd (· == '0') (Nat.toDigits 10 d) = ds at parts ⊢
    rw [parts] at value digits ⊢
    rw [Number.digitsValue_append_zeros] at value
    have nonempty : ds ≠ [] := by
      rintro rfl
      have nothing : d = 0 := by simpa [Number.digitsValue] using value.symm
      simpa [nothing] using near.pos zero
    obtain ⟨w, sign, shows⟩ := Number.Written.exists_shows_layOut negative nonempty
      (fun c inside => digits c (List.mem_append_left _ inside)) (k + (ds ++ List.replicate zeros '0').length)
    have magnitude : w.magnitude = d * 10 ^ k := by
      rw [shows.magnitude, ← value, List.length_append, List.length_replicate]
      push_cast
      rw [mul_assoc, ← zpow_natCast, ← zpow_add₀ (by norm_num)]
      congr 2
      omega
    refine ⟨w, shows.notWhole, ?_, ?_⟩
    · rw [Number.Written.text, shows.unsigned, sign]
      cases negative <;> rfl
    · rw [← magnitude] at near
      rw [w.readDecimal_text, sign, ofDecimal_eq_of_nearest negative canonical zero near]

end CBindings
