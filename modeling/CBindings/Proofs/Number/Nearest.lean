import CBindings.Proofs.Number.Significant

/-! The quotients that are rounded to a number of a format: from halfway below it to halfway above it, and the ends
themselves if its significand is even. -/
namespace CBindings

theorem roundQuotient_eq_of_near {a b n : Nat} (positive : 0 < b) (low : (n : ℚ) - 1 / 2 ≤ a / b)
    (high : (a / b : ℚ) ≤ n + 1 / 2) (inner : n % 2 = 1 → (n : ℚ) - 1 / 2 < a / b ∧ (a / b : ℚ) < n + 1 / 2) :
    roundQuotient a b = n := by
  have divisor : (0 : ℚ) < b := by exact_mod_cast positive
  have low : 2 * (n * b) ≤ 2 * a + b := by
    rw [le_div_iff₀ divisor] at low
    have scaled : (2 * (n * b) : ℚ) ≤ 2 * a + b := by linarith
    exact_mod_cast scaled
  have high : 2 * a ≤ 2 * (n * b) + b := by
    rw [div_le_iff₀ divisor] at high
    have scaled : (2 * a : ℚ) ≤ 2 * (n * b) + b := by linarith
    exact_mod_cast scaled
  have inner : n % 2 = 1 → 2 * (n * b) < 2 * a + b ∧ 2 * a < 2 * (n * b) + b := by
    intro odd
    obtain ⟨above, below⟩ := inner odd
    rw [lt_div_iff₀ divisor] at above
    rw [div_lt_iff₀ divisor] at below
    have above : (2 * (n * b) : ℚ) < 2 * a + b := by linarith
    have below : (2 * a : ℚ) < 2 * (n * b) + b := by linarith
    exact ⟨by exact_mod_cast above, by exact_mod_cast below⟩
  have parts := Nat.div_add_mod a b
  have small := Nat.mod_lt a positive
  unfold roundQuotient
  dsimp only
  generalize a / b = q at parts ⊢
  generalize a % b = r at parts small ⊢
  rw [Nat.mul_comm] at parts
  -- only the two integers around the quotient are near enough
  have least : q ≤ n := by
    by_contra more
    have product : (n + 1) * b ≤ q * b := Nat.mul_le_mul_right b (by omega)
    rw [Nat.add_mul] at product
    omega
  have most : n ≤ q + 1 := by
    by_contra more
    have product : (q + 2) * b ≤ n * b := Nat.mul_le_mul_right b (by omega)
    rw [Nat.add_mul] at product
    omega
  obtain rfl | rfl : n = q ∨ n = q + 1 := by omega
  · rw [if_neg]
    omega
  · rw [Nat.add_mul] at low high inner
    rw [if_pos]
    omega

namespace FloatFormat

variable {f : FloatFormat} {m : Nat} {e : Int} {q : ℚ}

/-- The one significand and exponent that stand for a number: the significand has all its bits, unless the unit is the
finest. -/
structure Canonical (f : FloatFormat) (m : Nat) (e : Int) : Prop where
  fits : m < 2 ^ f.precision
  least : f.minExponent ≤ e
  greatest : e ≤ f.maxExponent
  filled : 2 ^ (f.precision - 1) ≤ m ∨ e = f.minExponent

/-- Half the way to the number below, in units: below a power of two the numbers are twice as dense. -/
def gap (f : FloatFormat) (m : Nat) (e : Int) : ℚ :=
  if m = 2 ^ (f.precision - 1) ∧ f.minExponent < e then 1 / 4 else 1 / 2

structure Nearest (f : FloatFormat) (m : Nat) (e : Int) (q : ℚ) : Prop where
  low : (m - f.gap m e) * 2 ^ e ≤ q
  high : q ≤ (m + 1 / 2) * 2 ^ e
  inner : m % 2 = 1 → (m - f.gap m e) * 2 ^ e < q ∧ q < (m + 1 / 2) * 2 ^ e

theorem gap_bounds (f : FloatFormat) (m : Nat) (e : Int) : 1 / 4 ≤ f.gap m e ∧ f.gap m e ≤ 1 / 2 := by
  unfold gap
  split <;> norm_num

theorem Nearest.half_le (near : f.Nearest m e q) (nonzero : m ≠ 0) : 2 ^ e / 2 ≤ q := by
  have unit : (0 : ℚ) < 2 ^ e := by positivity
  have least : (1 : ℚ) ≤ m := by exact_mod_cast Nat.one_le_iff_ne_zero.mpr nonzero
  have wide := (f.gap_bounds m e).2
  have low := near.low
  nlinarith

theorem Nearest.pos (near : f.Nearest m e q) (nonzero : m ≠ 0) : 0 < q :=
  lt_of_lt_of_le (by positivity) (near.half_le nonzero)

theorem Nearest.lt_next (near : f.Nearest m e q) (fits : m < 2 ^ f.precision) : q < 2 ^ (e + f.precision) := by
  have unit : (0 : ℚ) < 2 ^ e := by positivity
  have fits : (m : ℚ) + 1 ≤ 2 ^ f.precision := by exact_mod_cast fits
  have high := near.high
  rw [zpow_add₀ two_ne_zero, zpow_natCast]
  nlinarith

theorem minExponent_le_unit (num den : Nat) : f.minExponent ≤ f.unit num den := le_max_left _ _

/- Only what is just below a power of two has a finer unit than that. -/
theorem unit_of_nearest (precise : 0 < f.precision) {num den : Nat} (positive : 0 < den) (canonical : f.Canonical m e)
    (nonzero : m ≠ 0) (near : f.Nearest m e (num / den)) :
    f.unit num den = e ∨ f.unit num den = e - 1 ∧ m = 2 ^ (f.precision - 1) ∧ f.gap m e = 1 / 4 := by
  have counted : num ≠ 0 := by
    rintro rfl
    simpa using near.pos nonzero
  have finest := f.minExponent_le_unit num den
  obtain ⟨above, below⟩ := f.unit_bounds counted positive
  generalize f.unit num den = u at finest above below ⊢
  have ordered {i j : Int} (less : (2 : ℚ) ^ i < 2 ^ j) : i < j := (zpow_lt_zpow_iff_right₀ (by norm_num)).mp less
  have notCoarser : u ≤ e := by
    by_contra coarser
    have least := canonical.least
    have powers := ordered ((below (by omega)).trans_lt (near.lt_next canonical.fits))
    omega
  rcases notCoarser.eq_or_lt with same | finer
  · exact .inl same
  have filled := canonical.filled.resolve_right (by omega)
  have unit : (0 : ℚ) < 2 ^ e := by positivity
  have power : (2 : ℚ) ^ (e + f.precision - 1) = 2 ^ (f.precision - 1) * 2 ^ e := by
    rw [← zpow_natCast, ← zpow_add₀ two_ne_zero]
    congr 1
    omega
  have low := near.low
  have least : m = 2 ^ (f.precision - 1) := by
    by_contra other
    have more : (2 ^ (f.precision - 1) : ℚ) + 1 ≤ m := by exact_mod_cast lt_of_le_of_ne filled (Ne.symm other)
    have wide := (f.gap_bounds m e).2
    have reached : (2 : ℚ) ^ (e + f.precision - 1) < 2 ^ (u + f.precision) := by
      rw [power]
      nlinarith
    have := ordered reached
    omega
  have gap : f.gap m e = 1 / 4 := by rw [FloatFormat.gap, if_pos ⟨least, by omega⟩]
  have reached : (2 : ℚ) ^ (e + f.precision - 2) < 2 ^ (u + f.precision) := by
    have half : (2 : ℚ) ^ (e + f.precision - 2) * 2 = 2 ^ (e + f.precision - 1) := by
      rw [← zpow_add_one₀ two_ne_zero]
      congr 1
      omega
    have some : (1 : ℚ) ≤ 2 ^ (f.precision - 1) := one_le_pow₀ (by norm_num)
    rw [gap, least] at low
    push_cast at low
    rw [power] at half
    nlinarith
  have := ordered reached
  exact .inr ⟨by omega, least, gap⟩

theorem round_eq_of_nearest (precise : 0 < f.precision) {num den : Nat} (positive : 0 < den)
    (canonical : f.Canonical m e) (nonzero : m ≠ 0) (near : f.Nearest m e (num / den)) :
    f.round num den = some (m, e) := by
  have counted : num ≠ 0 := by
    rintro rfl
    simpa using near.pos nonzero
  have divided (u : Int) : 0 < (scaleQuotient num den u).2 ∧
      ((scaleQuotient num den u).1 / (scaleQuotient num den u).2 : ℚ) = num / den / 2 ^ u := by
    obtain ⟨divisor, scaled⟩ := scaleQuotient_spec num positive u
    refine ⟨divisor, ?_⟩
    rw [scaled, mul_div_cancel_right₀]
    exact_mod_cast divisor.ne'
  have unit : (0 : ℚ) < 2 ^ e := by positivity
  have wide := (f.gap_bounds m e).2
  unfold round
  simp only [if_neg counted, Nat.pow_eq]
  rcases unit_of_nearest precise positive canonical nonzero near with same | ⟨finer, least, gap⟩
  · obtain ⟨divisor, quotient⟩ := divided e
    have rounded : roundQuotient (scaleQuotient num den e).1 (scaleQuotient num den e).2 = m := by
      apply roundQuotient_eq_of_near divisor
      · rw [quotient, le_div_iff₀ unit]
        nlinarith [near.low]
      · rw [quotient, div_le_iff₀ unit]
        exact near.high
      · intro odd
        obtain ⟨above, below⟩ := near.inner odd
        rw [quotient, lt_div_iff₀ unit, div_lt_iff₀ unit]
        exact ⟨by nlinarith, below⟩
    rw [same, rounded, if_neg canonical.fits.ne, if_neg (by simpa using canonical.greatest)]
  · -- just below a power of two, which rounding reaches
    have carries := (f.carries_iff precise counted positive).mpr (by
      have whole : (2 : ℚ) ^ (e - 1 + f.precision) = 2 ^ (f.precision - 1) * 2 ^ e := by
        rw [← zpow_natCast, ← zpow_add₀ two_ne_zero]
        congr 1
        omega
      have quarter : (2 : ℚ) ^ (e - 1 - 1) = 1 / 4 * 2 ^ e := by
        rw [zpow_sub_one₀ two_ne_zero, zpow_sub_one₀ two_ne_zero]
        ring
      have low := near.low
      rw [gap, least] at low
      push_cast at low
      rw [finer, whole, quarter, ← sub_mul]
      exact low)
    have half : 2 ^ f.precision / 2 = m := by
      rw [least, ← Nat.two_pow_pred_mul_two precise, Nat.mul_div_cancel _ Nat.two_pos]
    rw [if_pos carries, carries, half, finer, sub_add_cancel, if_neg (by simpa using canonical.greatest)]

theorem roundQuotient_bounds (a b : Nat) : a / b ≤ roundQuotient a b ∧ roundQuotient a b ≤ a / b + 1 := by
  unfold roundQuotient
  dsimp only
  split <;> omega

/-- What rounding makes is a number of the format. -/
theorem canonical_of_round (precise : 0 < f.precision) (ordered : f.minExponent ≤ f.maxExponent) {num den : Nat}
    (positive : 0 < den) (rounded : f.round num den = some (m, e)) : f.Canonical m e := by
  unfold round at rounded
  split at rounded
  · cases rounded
    exact ⟨Nat.two_pow_pos _, le_rfl, ordered, .inr rfl⟩
  · rename_i counted
    simp only [Nat.pow_eq] at rounded
    have finest := f.minExponent_le_unit num den
    obtain ⟨above, below⟩ := f.unit_bounds counted positive
    generalize f.unit num den = u at finest above below rounded
    have fits := (scaleQuotient_div_lt_iff num positive u f.precision).mpr above
    have filled : 2 ^ (f.precision - 1) ≤ (scaleQuotient num den u).1 / (scaleQuotient num den u).2 ∨
        u = f.minExponent := by
      by_cases coarser : f.minExponent < u
      · have reached := below coarser
        have bits : u + (f.precision - 1 : Nat) = u + f.precision - 1 := by omega
        refine .inl (Nat.not_lt.mp fun less => ?_)
        rw [scaleQuotient_div_lt_iff num positive u, bits] at less
        linarith
      · exact .inr (by omega)
    obtain ⟨down, up⟩ := roundQuotient_bounds (scaleQuotient num den u).1 (scaleQuotient num den u).2
    generalize (scaleQuotient num den u).1 / (scaleQuotient num den u).2 = q at fits filled down up
    generalize roundQuotient _ _ = n at down up rounded
    have double := Nat.two_pow_pred_mul_two precise
    have some := Nat.two_pow_pos (f.precision - 1)
    split at rounded
    · split at rounded
      · cases rounded
      · cases rounded
        exact ⟨by omega, by omega, by omega, .inl (by omega)⟩
    · split at rounded
      · cases rounded
      · cases rounded
        exact ⟨by omega, finest, by omega, filled.imp (le_trans · down) id⟩

end FloatFormat

namespace Binary64

/-- What a floating-point number can be: a finite one has one significand and exponent. -/
def Canonical : Binary64 → Prop
  | .finite _ m e => binary64.Canonical m e
  | _ => True

theorem canonical_ofRatio (negative : Bool) (num : Nat) {den : Nat} (positive : 0 < den) :
    (ofRatio negative num den).Canonical := by
  unfold ofRatio
  split
  · rename_i m e rounded
    exact FloatFormat.canonical_of_round (by decide) (by decide) positive rounded
  · trivial

theorem canonical_zero (negative : Bool) : (finite negative 0 (-1074)).Canonical :=
  ⟨by decide, by decide, by decide, .inr rfl⟩

theorem canonical_ofDecimal (negative : Bool) (m : Nat) (e : Int) : (ofDecimal negative m e).Canonical := by
  unfold ofDecimal
  dsimp only
  split
  · exact canonical_zero negative
  · split
    · trivial
    · split
      · exact canonical_ofRatio negative _ Nat.one_pos
      · exact canonical_ofRatio negative m (Nat.pow_pos (by decide))

/-- A decimal fraction reads as the number that it is nearest to. -/
theorem ofDecimal_eq_of_nearest {m : Nat} {e : Int} (negative : Bool) {d : Nat} {k : Int}
    (canonical : binary64.Canonical m e) (nonzero : m ≠ 0) (near : binary64.Nearest m e (d * 10 ^ k)) :
    ofDecimal negative d k = .finite negative m e := by
  have ten : (0 : ℚ) < 10 ^ k := by positivity
  have half := near.half_le nonzero
  have next := near.lt_next canonical.fits
  have counted : d ≠ 0 := by
    rintro rfl
    simpa using near.pos nonzero
  obtain ⟨low, high⟩ := toDigits_bounds counted
  have some : 0 < (Nat.toDigits 10 d).length := Nat.length_toDigits_pos
  unfold ofDecimal
  simp only [Nat.pow_eq]
  generalize (Nat.toDigits 10 d).length = digits at low high some ⊢
  have high : (d * 10 ^ k : ℚ) < 10 ^ (digits + k) := by
    rw [zpow_add₀ (by norm_num), zpow_natCast]
    have high : (d : ℚ) < 10 ^ digits := by exact_mod_cast high
    gcongr
  have low : (10 : ℚ) ^ (digits + k - 1) ≤ d * 10 ^ k := by
    have split : (10 : ℚ) ^ (digits + k - 1) = 10 ^ (digits - 1) * 10 ^ k := by
      rw [← zpow_natCast, ← zpow_add₀ (by norm_num)]
      congr 1
      omega
    have low : (10 : ℚ) ^ (digits - 1) ≤ d := by exact_mod_cast low
    rw [split]
    gcongr
  -- three bits take less than a digit, so the format ends long before the digits settle the matter
  have bits (n : Nat) : (2 : ℚ) ^ (3 * n : Int) ≤ 10 ^ (n : Int) := by
    rw [zpow_mul, zpow_natCast, zpow_natCast]
    gcongr
    norm_num
  have notTiny : -400 ≤ digits + k := by
    by_contra tiny
    have below : (10 : ℚ) ^ (digits + k) ≤ 10 ^ (-401 : Int) := zpow_le_zpow_right₀ (by norm_num) (by omega)
    have least : (10 : ℚ) ^ (-401 : Int) ≤ 2 ^ (-1203 : Int) := by
      rw [zpow_neg, zpow_neg]
      exact inv_anti₀ (by positivity) (bits 401)
    have unit : (2 : ℚ) ^ (-1203 : Int) ≤ 2 ^ e / 2 := by
      rw [div_eq_mul_inv, ← zpow_sub_one₀ two_ne_zero]
      have least : -1074 ≤ e := canonical.least
      exact zpow_le_zpow_right₀ (by norm_num) (by omega)
    linarith
  have notHuge : digits + k ≤ 400 := by
    by_contra huge
    have above : (10 : ℚ) ^ (400 : Int) ≤ 10 ^ (digits + k - 1) := zpow_le_zpow_right₀ (by norm_num) (by omega)
    have greatest : (2 : ℚ) ^ (e + binary64.precision) ≤ 2 ^ (1200 : Int) := by
      have greatest : e + 53 ≤ 1200 := (Int.add_le_add_right canonical.greatest 53).trans (by decide)
      exact zpow_le_zpow_right₀ (by norm_num) greatest
    have room : (2 : ℚ) ^ (1200 : Int) ≤ 10 ^ (400 : Int) := bits 400
    exact absurd (low.trans_lt next) (not_lt.mpr (greatest.trans (room.trans above)))
  rw [if_neg (by omega), if_neg (by omega)]
  have rounded {num den : Nat} (positive : 0 < den) (same : (num / den : ℚ) = d * 10 ^ k) :
      ofRatio negative num den = .finite negative m e := by
    rw [← same] at near
    rw [ofRatio, FloatFormat.round_eq_of_nearest (by decide) positive canonical nonzero near]
  split
  · rename_i up
    apply rounded Nat.one_pos
    rw [← Int.toNat_of_nonneg up, zpow_natCast, Int.toNat_natCast]
    push_cast
    ring
  · rename_i down
    have power : (10 : ℚ) ^ k = (10 ^ (-k).toNat)⁻¹ := by
      rw [← zpow_natCast, Int.toNat_of_nonneg (by omega), zpow_neg, inv_inv]
    apply rounded (by positivity)
    rw [power]
    push_cast
    rw [div_eq_mul_inv]

end Binary64

end CBindings
