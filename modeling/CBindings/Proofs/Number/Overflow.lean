import CBindings.Number.Reading
import Mathlib.Algebra.Order.Field.Power
import Mathlib.Data.Rat.Cast.Order
import Mathlib.Tactic.FieldSimp
import Mathlib.Tactic.Linarith
import Mathlib.Tactic.NormNum
import Mathlib.Tactic.Positivity
import Mathlib.Tactic.Ring

/-! From which number on rounding goes beyond a format: half a unit above the largest number that it has. -/
namespace CBindings

theorem roundQuotient_eq_iff {a b n : Nat} (positive : 0 < b) (even : n % 2 = 0) (below : a < n * b) :
    roundQuotient a b = n ↔ (2 * n - 1) * b ≤ 2 * a := by
  have parts := Nat.div_add_mod a b
  have small := Nat.mod_lt a positive
  have quotient : a / b < n := (Nat.div_lt_iff_lt_mul positive).mpr below
  unfold roundQuotient
  dsimp only
  generalize a / b = q at parts quotient ⊢
  generalize a % b = r at parts small ⊢
  obtain ⟨k, rfl⟩ : ∃ k, n = q + 1 + k := ⟨n - (q + 1), by omega⟩
  have product : (2 * (q + 1 + k) - 1) * b = 2 * (b * q) + b + 2 * (k * b) := by
    have odd : 2 * (q + 1 + k) - 1 = 2 * q + 1 + 2 * k := by omega
    rw [odd]
    ring
  rw [product]
  cases k with
  | zero =>
    -- the quotient is one less than `n` and odd, so a tie goes up
    have last : q % 2 = 1 := by omega
    simp only [last, and_true]
    split <;> omega
  | succ k =>
    have room : b ≤ (k + 1) * b := Nat.le_mul_of_pos_left b (by omega)
    split <;> omega

theorem scaleQuotient_spec (num : Nat) {den : Nat} (positive : 0 < den) (e : Int) :
    0 < (scaleQuotient num den e).2 ∧
    ((scaleQuotient num den e).1 : ℚ) = num / den / 2 ^ e * (scaleQuotient num den e).2 := by
  have nonzero : (den : ℚ) ≠ 0 := by exact_mod_cast positive.ne'
  unfold scaleQuotient
  simp only [Nat.pow_eq]
  split
  · rename_i up
    have power : (2 : ℚ) ^ e = 2 ^ e.toNat := by rw [← zpow_natCast, Int.toNat_of_nonneg up]
    refine ⟨by positivity, ?_⟩
    rw [power]
    push_cast
    field_simp
  · rename_i down
    have power : (2 : ℚ) ^ e = (2 ^ (-e).toNat)⁻¹ := by
      rw [← zpow_natCast, Int.toNat_of_nonneg (by omega), zpow_neg, inv_inv]
    refine ⟨positive, ?_⟩
    rw [power]
    push_cast
    field_simp

theorem log2_quotient_bounds {num den : Nat} (nonzero : num ≠ 0) (positive : 0 < den) :
    (2 : ℚ) ^ ((num.log2 : Int) - den.log2 - 1) < num / den ∧
    (num / den : ℚ) < 2 ^ ((num.log2 : Int) - den.log2 + 1) := by
  have numLow : (2 : ℚ) ^ num.log2 ≤ num := by exact_mod_cast Nat.log2_self_le nonzero
  have numHigh : (num : ℚ) < 2 ^ (num.log2 + 1) := by exact_mod_cast Nat.lt_log2_self
  have denLow : (2 : ℚ) ^ den.log2 ≤ den := by exact_mod_cast Nat.log2_self_le positive.ne'
  have denHigh : (den : ℚ) < 2 ^ (den.log2 + 1) := by exact_mod_cast Nat.lt_log2_self
  have divisor : (0 : ℚ) < den := by exact_mod_cast positive
  constructor
  · rw [lt_div_iff₀ divisor]
    calc (2 : ℚ) ^ ((num.log2 : Int) - den.log2 - 1) * den
        < 2 ^ ((num.log2 : Int) - den.log2 - 1) * 2 ^ (den.log2 + 1) := by gcongr
      _ = 2 ^ num.log2 := by
          rw [← zpow_natCast, ← zpow_natCast, ← zpow_add₀ two_ne_zero]
          congr 1
          push_cast
          ring
      _ ≤ num := numLow
  · rw [div_lt_iff₀ divisor]
    calc (num : ℚ) < 2 ^ (num.log2 + 1) := numHigh
      _ = 2 ^ ((num.log2 : Int) - den.log2 + 1) * 2 ^ den.log2 := by
          rw [← zpow_natCast, ← zpow_natCast, ← zpow_add₀ two_ne_zero]
          congr 1
          push_cast
          ring
      _ ≤ 2 ^ ((num.log2 : Int) - den.log2 + 1) * den := by gcongr

theorem scaleQuotient_div_lt_iff (num : Nat) {den : Nat} (positive : 0 < den) (e : Int) (bits : Nat) :
    (scaleQuotient num den e).1 / (scaleQuotient num den e).2 < 2 ^ bits ↔
      (num / den : ℚ) < 2 ^ (e + bits) := by
  obtain ⟨divisor, scaled⟩ := scaleQuotient_spec num positive e
  have power : (0 : ℚ) < 2 ^ e := by positivity
  have divisor' : (0 : ℚ) < (scaleQuotient num den e).2 := by exact_mod_cast divisor
  calc (scaleQuotient num den e).1 / (scaleQuotient num den e).2 < 2 ^ bits
      ↔ (scaleQuotient num den e).1 < 2 ^ bits * (scaleQuotient num den e).2 :=
        Nat.div_lt_iff_lt_mul divisor
    _ ↔ ((scaleQuotient num den e).1 : ℚ) < 2 ^ bits * (scaleQuotient num den e).2 := by norm_cast
    _ ↔ (num / den / 2 ^ e : ℚ) < 2 ^ bits := by rw [scaled, mul_lt_mul_iff_left₀ divisor']
    _ ↔ (num / den : ℚ) < 2 ^ (e + bits) := by
        rw [div_lt_iff₀ power, ← zpow_natCast, ← zpow_add₀ two_ne_zero, add_comm]

namespace FloatFormat

variable (f : FloatFormat)

/- In its unit a quotient is below `2 ^ precision`, and has that many bits unless the unit is the finest. -/
theorem unit_bounds {num den : Nat} (nonzero : num ≠ 0) (positive : 0 < den) :
    (num / den : ℚ) < 2 ^ (f.unit num den + f.precision) ∧
    (f.minExponent < f.unit num den → (2 : ℚ) ^ (f.unit num den + f.precision - 1) ≤ num / den) := by
  obtain ⟨low, high⟩ := log2_quotient_bounds nonzero positive
  have fits := scaleQuotient_div_lt_iff num positive ((num.log2 : Int) - den.log2 - f.precision) f.precision
  have chosen : ∃ e, f.unit num den = max f.minExponent e ∧ (num / den : ℚ) < 2 ^ (e + f.precision) ∧
      (2 : ℚ) ^ (e + f.precision - 1) ≤ num / den := by
    by_cases small : (num / den : ℚ) < 2 ^ ((num.log2 : Int) - den.log2 - f.precision + f.precision)
    · refine ⟨(num.log2 : Int) - den.log2 - f.precision, ?_, small, ?_⟩
      · simp only [unit, Nat.pow_eq, if_pos (fits.mpr small)]
      · rw [sub_add_cancel]
        exact low.le
    · refine ⟨(num.log2 : Int) - den.log2 - f.precision + 1, ?_, ?_, ?_⟩
      · simp only [unit, Nat.pow_eq, if_neg (fun less => small (fits.mp less))]
      · have shifted : (num.log2 : Int) - den.log2 - f.precision + 1 + f.precision = num.log2 - den.log2 + 1 := by
          ring
        rw [shifted]
        exact high
      · have shifted : (num.log2 : Int) - den.log2 - f.precision + 1 + f.precision - 1 =
            num.log2 - den.log2 - f.precision + f.precision := by
          ring
        rw [shifted]
        exact not_lt.mp small
  -- the bounds of `e` carry over to the unit, which differs from it only where `e` is too fine
  obtain ⟨e, unit, above, below⟩ := chosen
  rw [unit]
  constructor
  · refine above.trans_le ?_
    gcongr
    · norm_num
    · exact le_max_right _ _
  · intro coarser
    have same : max f.minExponent e = e := max_eq_right (by omega)
    rw [same]
    exact below

/-- The least quotient that is rounded beyond the format. -/
def overflow : ℚ := 2 ^ (f.maxExponent + f.precision) - 2 ^ (f.maxExponent - 1)

/-- The exponent after rounding: one more if that took one bit more. -/
def carried (m : Nat) (e : Int) : Int := if m = 2 ^ f.precision then e + 1 else e

theorem round_eq_none {num : Nat} (nonzero : num ≠ 0) (den : Nat) :
    f.round num den = none ↔
      f.maxExponent < f.carried (roundQuotient (scaleQuotient num den (f.unit num den)).1
        (scaleQuotient num den (f.unit num den)).2) (f.unit num den) := by
  unfold round carried
  rw [if_neg nonzero]
  simp only [Nat.pow_eq]
  split <;> split <;> simp_all

theorem carries_iff (precise : 0 < f.precision) {num den : Nat} (nonzero : num ≠ 0) (positive : 0 < den) :
    roundQuotient (scaleQuotient num den (f.unit num den)).1 (scaleQuotient num den (f.unit num den)).2
        = 2 ^ f.precision ↔
      (2 : ℚ) ^ (f.unit num den + f.precision) - 2 ^ (f.unit num den - 1) ≤ num / den := by
  obtain ⟨above, _⟩ := f.unit_bounds nonzero positive
  generalize f.unit num den = e at above ⊢
  obtain ⟨divisor, scaled⟩ := scaleQuotient_spec num positive e
  have below := (scaleQuotient_div_lt_iff num positive e f.precision).mpr above
  rw [Nat.div_lt_iff_lt_mul divisor] at below
  have even : 2 ^ f.precision % 2 = 0 := by
    obtain ⟨k, same⟩ : ∃ k, f.precision = k + 1 := ⟨f.precision - 1, by omega⟩
    rw [same, pow_succ, Nat.mul_mod_left]
  rw [roundQuotient_eq_iff divisor even below]
  generalize (scaleQuotient num den e).1 = a at scaled ⊢
  generalize (scaleQuotient num den e).2 = b at divisor scaled ⊢
  have divisor' : (0 : ℚ) < b := by exact_mod_cast divisor
  have unit : (0 : ℚ) < 2 ^ e := by positivity
  have half : (2 : ℚ) ^ (e - 1) = 2 ^ e / 2 := by rw [zpow_sub₀ two_ne_zero, zpow_one]
  have whole : (2 : ℚ) ^ (e + f.precision) = 2 ^ f.precision * 2 ^ e := by
    rw [zpow_add₀ two_ne_zero, zpow_natCast, mul_comm]
  have odd : ((2 * 2 ^ f.precision - 1 : Nat) : ℚ) = 2 * 2 ^ f.precision - 1 := by
    have nonzero : 1 ≤ 2 * 2 ^ f.precision := by have := Nat.two_pow_pos f.precision; omega
    push_cast [Nat.cast_sub nonzero]
    rfl
  calc (2 * 2 ^ f.precision - 1) * b ≤ 2 * a
      ↔ ((2 * 2 ^ f.precision - 1 : Nat) : ℚ) * b ≤ 2 * a := by norm_cast
    _ ↔ (2 * 2 ^ f.precision - 1 : ℚ) * b ≤ 2 * (num / den / 2 ^ e) * b := by rw [odd, scaled, mul_assoc]
    _ ↔ (2 * 2 ^ f.precision - 1 : ℚ) ≤ 2 * (num / den / 2 ^ e) := mul_le_mul_iff_left₀ divisor'
    _ ↔ (2 * 2 ^ f.precision - 1 : ℚ) * 2 ^ e ≤ 2 * (num / den) := by rw [← mul_div_assoc, le_div_iff₀ unit]
    _ ↔ (2 : ℚ) ^ (e + f.precision) - 2 ^ (e - 1) ≤ num / den := by
        rw [half, whole]
        constructor <;> intro bound <;> linarith

theorem le_overflow : (2 : ℚ) ^ (f.maxExponent + f.precision - 1) ≤ f.overflow := by
  have double : (2 : ℚ) ^ (f.maxExponent + f.precision) = 2 ^ (f.maxExponent + f.precision - 1) * 2 := by
    rw [zpow_sub₀ two_ne_zero, zpow_one, div_mul_cancel₀ _ two_ne_zero]
  have finest : (2 : ℚ) ^ (f.maxExponent - 1) ≤ 2 ^ (f.maxExponent + f.precision - 1) :=
    zpow_le_zpow_right₀ (by norm_num) (by omega)
  unfold overflow
  linarith

theorem round_eq_none_iff (precise : 0 < f.precision) (wide : f.minExponent < f.maxExponent) (num : Nat)
    {den : Nat} (positive : 0 < den) : f.round num den = none ↔ f.overflow ≤ num / den := by
  have ordered {i j : Int} (le : i ≤ j) : (2 : ℚ) ^ i ≤ 2 ^ j := zpow_le_zpow_right₀ (by norm_num) le
  by_cases zero : num = 0
  · have beyond : 0 < f.overflow := lt_of_lt_of_le (by positivity) f.le_overflow
    simp [zero, round, beyond]
  · rw [f.round_eq_none zero]
    obtain ⟨above, below⟩ := f.unit_bounds zero positive
    have carries := f.carries_iff precise zero positive
    generalize roundQuotient _ _ = m at carries ⊢
    generalize f.unit num den = e at above below carries ⊢
    have carried : f.carried m e = e + 1 ∧ m = 2 ^ f.precision ∨ f.carried m e = e ∧ m ≠ 2 ^ f.precision := by
      unfold FloatFormat.carried
      split
      · exact .inl ⟨rfl, by assumption⟩
      · exact .inr ⟨rfl, by assumption⟩
    -- only at the greatest exponent does rounding decide
    rcases lt_trichotomy f.maxExponent e with coarse | rfl | fine
    · have large : f.overflow ≤ num / den := by
        have reached := below (by omega)
        have power := ordered (show f.maxExponent + f.precision ≤ e + f.precision - 1 by omega)
        have half : (0 : ℚ) < 2 ^ (f.maxExponent - 1) := by positivity
        unfold overflow
        linarith
      exact iff_of_true (by omega) large
    · rw [overflow, ← carries]
      constructor
      · intro beyond
        rcases carried with ⟨_, full⟩ | ⟨same, _⟩
        · exact full
        · omega
      · intro full
        rcases carried with ⟨next, _⟩ | ⟨_, other⟩
        · omega
        · exact absurd full other
    · have small : (num / den : ℚ) < f.overflow := by
        have power := ordered (show e + f.precision ≤ f.maxExponent + f.precision - 1 by omega)
        exact above.trans_le (power.trans f.le_overflow)
      exact iff_of_false (by omega) (not_le.mpr small)

end FloatFormat

theorem binary64_overflow : binary64.overflow = 2 ^ 1024 - 2 ^ 970 := by
  norm_num [binary64, FloatFormat.overflow]

namespace Binary64

theorem ofRatio_infinite_iff (negative : Bool) (num : Nat) {den : Nat} (positive : 0 < den) :
    (∃ sign, ofRatio negative num den = .infinite sign) ↔ binary64.overflow ≤ num / den := by
  rw [← binary64.round_eq_none_iff (by decide) (by decide) num positive]
  unfold ofRatio
  cases binary64.round num den with
  | none => simp
  | some rounded => simp

theorem ofBinary_infinite_iff (negative : Bool) (m : Nat) (e : Int) :
    (∃ sign, ofBinary negative m e = .infinite sign) ↔ (2 ^ 1024 - 2 ^ 970 : ℚ) ≤ m * 2 ^ e := by
  have ordered {i j : Int} (le : i ≤ j) : (2 : ℚ) ^ i ≤ 2 ^ j := zpow_le_zpow_right₀ (by norm_num) le
  have scale : (0 : ℚ) < 2 ^ e := by positivity
  rw [← binary64_overflow]
  unfold ofBinary
  simp only [Nat.pow_eq]
  split
  · rename_i tiny
    have small : (m * 2 ^ e : ℚ) < binary64.overflow := by
      have least : (2 : ℚ) ^ (1023 : Int) ≤ binary64.overflow := binary64.le_overflow
      rcases tiny with rfl | below
      · have positive : 0 < binary64.overflow := lt_of_lt_of_le (by positivity) least
        simpa using positive
      · have bits : (m : ℚ) < 2 ^ (m.log2 + 1) := by exact_mod_cast Nat.lt_log2_self
        calc (m * 2 ^ e : ℚ) < 2 ^ (m.log2 + 1) * 2 ^ e := by gcongr
          _ = 2 ^ ((m.log2 : Int) + 1 + e) := by rw [zpow_add₀ two_ne_zero]; norm_cast
          _ ≤ 2 ^ (1023 : Int) := ordered (by omega)
          _ ≤ binary64.overflow := least
    simpa using small
  · rename_i notTiny
    split
    · rename_i huge
      have large : binary64.overflow ≤ (m * 2 ^ e : ℚ) := by
        have bits : (2 : ℚ) ^ m.log2 ≤ m := by exact_mod_cast Nat.log2_self_le fun zero => notTiny (.inl zero)
        calc binary64.overflow ≤ 2 ^ (1024 : Int) := by rw [binary64_overflow]; norm_num
          _ ≤ 2 ^ ((m.log2 : Int) + e) := ordered (by omega)
          _ = 2 ^ m.log2 * 2 ^ e := by rw [zpow_add₀ two_ne_zero, zpow_natCast]
          _ ≤ m * 2 ^ e := by gcongr
      simpa using large
    · split
      · rename_i up
        have power : (2 : ℚ) ^ e = 2 ^ e.toNat := by rw [← zpow_natCast, Int.toNat_of_nonneg up]
        rw [ofRatio_infinite_iff negative _ Nat.one_pos, power]
        push_cast
        rw [div_one]
      · rename_i down
        have power : (2 : ℚ) ^ e = (2 ^ (-e).toNat)⁻¹ := by
          rw [← zpow_natCast, Int.toNat_of_nonneg (by omega), zpow_neg, inv_inv]
        rw [ofRatio_infinite_iff negative _ (Nat.two_pow_pos _), power]
        push_cast
        rw [div_eq_mul_inv]

end Binary64

end CBindings
