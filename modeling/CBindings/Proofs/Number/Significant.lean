import CBindings.Proofs.Number.Decimal
import CBindings.Proofs.Number.Overflow

/-! Floating-point numbers with a number of significant digits: positional or with an exponent, whichever the size
suggests, and no zeros at the end. With digits enough for the format, what is written without point and exponent is
the number itself, so it is an integer. -/
namespace CBindings

theorem roundQuotient_near (a : Nat) {b : Nat} (positive : 0 < b) : |(a / b : ℚ) - roundQuotient a b| ≤ 1 / 2 := by
  have divisor : (0 : ℚ) < b := by exact_mod_cast positive
  have parts : (a : ℚ) = b * (a / b : Nat) + (a % b : Nat) := by exact_mod_cast (Nat.div_add_mod a b).symm
  have small : ((a % b : Nat) : ℚ) < b := by exact_mod_cast Nat.mod_lt a positive
  unfold roundQuotient
  dsimp only
  generalize a / b = q at parts ⊢
  generalize a % b = r at parts small ⊢
  have quotient : (a / b : ℚ) = q + r / b := by
    rw [parts]
    field_simp
  split
  · rename_i up
    have half : (b : ℚ) ≤ 2 * r := by
      rcases up with more | ⟨tie, -⟩
      · exact_mod_cast more.le
      · exact_mod_cast tie.ge
    have low : (1 / 2 : ℚ) ≤ r / b := by
      rw [le_div_iff₀ divisor]
      linarith
    have high : (r / b : ℚ) < 1 := (div_lt_one divisor).mpr small
    rw [quotient, abs_le]
    push_cast
    constructor <;> linarith
  · rename_i down
    have half : (2 * r : ℚ) ≤ b := by
      have : 2 * r ≤ b := by omega
      exact_mod_cast this
    have high : (r / b : ℚ) ≤ 1 / 2 := by
      rw [div_le_iff₀ divisor]
      linarith
    have low : (0 : ℚ) ≤ r / b := by positivity
    rw [quotient, abs_le]
    constructor <;> linarith

/-- The multiple of `10 ^ g` that is nearest to `num / den`, divided by `10 ^ g`. -/
def roundTo (num den : Nat) (g : Int) : Nat :=
  if 0 ≤ g then roundQuotient num (den * 10 ^ g.toNat) else roundQuotient (num * 10 ^ (-g).toNat) den

theorem roundTo_near (num : Nat) {den : Nat} (positive : 0 < den) (g : Int) :
    |(num / den : ℚ) - roundTo num den g * 10 ^ g| ≤ 10 ^ g / 2 := by
  have unit : (0 : ℚ) < 10 ^ g := by positivity
  have scaled : |(num / den / 10 ^ g : ℚ) - roundTo num den g| ≤ 1 / 2 := by
    unfold roundTo
    split
    · rename_i up
      have power : (10 : ℚ) ^ g = 10 ^ g.toNat := by rw [← zpow_natCast, Int.toNat_of_nonneg up]
      have near := roundQuotient_near num (Nat.mul_pos positive (Nat.pow_pos (n := g.toNat) (by decide : 0 < 10)))
      push_cast at near
      rwa [power, div_div]
    · rename_i down
      have power : (10 : ℚ) ^ g = (10 ^ (-g).toNat)⁻¹ := by
        rw [← zpow_natCast, Int.toNat_of_nonneg (by omega), zpow_neg, inv_inv]
      have near := roundQuotient_near (num * 10 ^ (-g).toNat) positive
      push_cast at near
      rwa [power, div_inv_eq_mul, div_mul_eq_mul_div]
  calc |(num / den : ℚ) - roundTo num den g * 10 ^ g|
      = |(num / den / 10 ^ g : ℚ) - roundTo num den g| * 10 ^ g := by
        rw [← abs_of_pos unit, ← abs_mul, abs_of_pos unit, sub_mul, div_mul_cancel₀ _ unit.ne']
    _ ≤ 1 / 2 * 10 ^ g := by gcongr
    _ = 10 ^ g / 2 := by ring

theorem toDigits_bounds {n : Nat} (nonzero : n ≠ 0) :
    10 ^ ((Nat.toDigits 10 n).length - 1) ≤ n ∧ n < 10 ^ (Nat.toDigits 10 n).length := by
  have some : 0 < (Nat.toDigits 10 n).length := Nat.length_toDigits_pos
  constructor
  · by_contra below
    by_cases single : (Nat.toDigits 10 n).length = 1
    · simp [single] at below
      omega
    · have shorter := (Nat.length_toDigits_le_iff (by decide) (by omega)).mpr (Nat.not_le.mp below)
      omega
  · exact (Nat.length_toDigits_le_iff (by decide) some).mp le_rfl

theorem decimalExponent_bounds {num den : Nat} (nonzero : num ≠ 0) (positive : 0 < den) :
    (10 : ℚ) ^ Binary64.decimalExponent num den ≤ num / den ∧
      (num / den : ℚ) < 10 ^ (Binary64.decimalExponent num den + 1) := by
  have divisor : (0 : ℚ) < den := by exact_mod_cast positive
  obtain ⟨numLow, numHigh⟩ := toDigits_bounds nonzero
  obtain ⟨denLow, denHigh⟩ := toDigits_bounds positive.ne'
  have somea : 0 < (Nat.toDigits 10 num).length := Nat.length_toDigits_pos
  have someb : 0 < (Nat.toDigits 10 den).length := Nat.length_toDigits_pos
  unfold Binary64.decimalExponent
  simp only [Nat.pow_eq]
  generalize (Nat.toDigits 10 num).length = a at numLow numHigh somea ⊢
  generalize (Nat.toDigits 10 den).length = b at denLow denHigh someb ⊢
  have reached : (if b ≤ a then den * 10 ^ (a - b) ≤ num else den ≤ num * 10 ^ (b - a)) ↔
      (10 : ℚ) ^ ((a : Int) - b) ≤ num / den := by
    rw [le_div_iff₀ divisor]
    split
    · rename_i wide
      have power : (10 : ℚ) ^ ((a : Int) - b) = 10 ^ (a - b) := by
        rw [← zpow_natCast]
        congr 1
        omega
      rw [power, mul_comm]
      norm_cast
    · rename_i narrow
      have power : (10 : ℚ) ^ ((a : Int) - b) = (10 ^ (b - a))⁻¹ := by
        rw [← zpow_natCast, ← zpow_neg]
        congr 1
        omega
      rw [power, inv_mul_le_iff₀ (by positivity), mul_comm]
      norm_cast
  have low : (10 : ℚ) ^ ((a : Int) - b - 1) ≤ num / den := by
    have numLow : (10 : ℚ) ^ (a - 1) ≤ num := by exact_mod_cast numLow
    have denHigh : (den : ℚ) < 10 ^ b := by exact_mod_cast denHigh
    rw [le_div_iff₀ divisor]
    calc (10 : ℚ) ^ ((a : Int) - b - 1) * den ≤ 10 ^ ((a : Int) - b - 1) * 10 ^ b := by gcongr
      _ = 10 ^ (a - 1) := by
          rw [← zpow_natCast, ← zpow_natCast, ← zpow_add₀ (by norm_num)]
          congr 1
          omega
      _ ≤ num := numLow
  have high : (num / den : ℚ) < 10 ^ ((a : Int) - b + 1) := by
    have numHigh : (num : ℚ) < 10 ^ a := by exact_mod_cast numHigh
    have denLow : (10 : ℚ) ^ (b - 1) ≤ den := by exact_mod_cast denLow
    rw [div_lt_iff₀ divisor]
    calc (num : ℚ) < 10 ^ a := numHigh
      _ = 10 ^ ((a : Int) - b + 1) * 10 ^ (b - 1) := by
          rw [← zpow_natCast, ← zpow_natCast, ← zpow_add₀ (by norm_num)]
          congr 1
          omega
      _ ≤ 10 ^ ((a : Int) - b + 1) * den := by gcongr
  by_cases hit : (10 : ℚ) ^ ((a : Int) - b) ≤ num / den
  · rw [if_pos (reached.mpr hit)]
    exact ⟨hit, high⟩
  · rw [if_neg fun found => hit (reached.mp found), sub_add_cancel]
    exact ⟨low, not_le.mp hit⟩

/-- The first `digits` digits of `num / den`, rounded, and the power of ten of the first of them. -/
def leading (digits num den : Nat) : Nat × Int :=
  let top := Binary64.decimalExponent num den
  let d := roundTo num den (top - digits + 1)
  if d = 10 ^ digits then (10 ^ (digits - 1), top + 1) else (d, top)

/- Two naturals that are half apart at most are one. -/
theorem eq_of_near {a b : Nat} (near : |(a : ℚ) - b| ≤ 1 / 2) : a = b := by
  have below : |((a : Int) - b : Int)| < 1 := by
    have less : |(a : ℚ) - b| < 1 := near.trans_lt (by norm_num)
    exact_mod_cast less
  have same := Int.abs_lt_one_iff.mp below
  omega

/- `k` is the exponent before rounding, which is that of the first digit unless rounding took one digit more. -/
theorem leading_spec {digits num den : Nat} (some : 0 < digits) (nonzero : num ≠ 0) (positive : 0 < den) :
    (leading digits num den).1 < 10 ^ digits ∧
    ∃ k : Int, k ≤ (leading digits num den).2 ∧ (10 : ℚ) ^ k ≤ num / den ∧
      |(num / den : ℚ) - (leading digits num den).1 * 10 ^ ((leading digits num den).2 - digits + 1)|
        ≤ 10 ^ (k - digits + 1) / 2 := by
  obtain ⟨low, high⟩ := decimalExponent_bounds nonzero positive
  have near := roundTo_near num positive (Binary64.decimalExponent num den - digits + 1)
  unfold leading
  dsimp only
  generalize Binary64.decimalExponent num den = k at low high near ⊢
  generalize roundTo num den (k - digits + 1) = d at near ⊢
  split
  · rename_i full
    refine ⟨Nat.pow_lt_pow_right (by decide) (by omega), k, by omega, low, ?_⟩
    have carried : ((10 ^ (digits - 1) : Nat) : ℚ) * 10 ^ (k + 1 - digits + 1) = d * 10 ^ (k - digits + 1) := by
      rw [full]
      push_cast
      rw [← zpow_natCast, ← zpow_natCast, ← zpow_add₀ (by norm_num), ← zpow_add₀ (by norm_num)]
      congr 1
      omega
    rwa [carried]
  · rename_i room
    refine ⟨lt_of_le_of_ne ?_ room, k, le_rfl, low, near⟩
    have unit : (0 : ℚ) < 10 ^ (k - digits + 1) := by positivity
    have power : (10 : ℚ) ^ (k + 1) = 10 ^ digits * 10 ^ (k - digits + 1) := by
      rw [← zpow_natCast, ← zpow_add₀ (by norm_num)]
      congr 1
      omega
    have bound : (d : ℚ) < 10 ^ digits + 1 := by
      have above := (abs_le.mp near).1
      rw [power] at high
      nlinarith
    exact Nat.lt_succ_iff.mp (by exact_mod_cast bound)

/- An integer that has its digits loses nothing. -/
theorem leading_of_natural {digits num den n : Nat} (nonzero : num ≠ 0) (positive : 0 < den)
    (whole : (num / den : ℚ) = n) (short : n < 10 ^ digits) :
    ∃ k : Nat, k < digits ∧ leading digits num den = (n * 10 ^ (digits - 1 - k), (k : Int)) := by
  obtain ⟨low, high⟩ := decimalExponent_bounds nonzero positive
  have near := roundTo_near num positive (Binary64.decimalExponent num den - digits + 1)
  have least : 1 ≤ n := by
    have above : (0 : ℚ) < num / den := by positivity
    rw [whole] at above
    exact_mod_cast above
  unfold leading
  dsimp only
  rw [whole] at low high near
  generalize Binary64.decimalExponent num den = e at low high near ⊢
  have nonneg : 0 ≤ e := by
    have more : (10 : ℚ) ^ (0 : Int) < 10 ^ (e + 1) := by
      rw [zpow_zero]
      exact lt_of_le_of_lt (by exact_mod_cast least) high
    have := (zpow_lt_zpow_iff_right₀ (by norm_num)).mp more
    omega
  have small : e < digits := by
    have less : (10 : ℚ) ^ e < 10 ^ (digits : Int) := by
      rw [zpow_natCast]
      exact lt_of_le_of_lt low (by exact_mod_cast short)
    exact (zpow_lt_zpow_iff_right₀ (by norm_num)).mp less
  obtain ⟨k, rfl⟩ := Int.eq_ofNat_of_zero_le nonneg
  have fine : (10 : ℚ) ^ ((k : Int) - digits + 1) = (10 ^ (digits - 1 - k))⁻¹ := by
    rw [← zpow_natCast, ← zpow_neg]
    congr 1
    omega
  have exact : roundTo num den ((k : Int) - digits + 1) = n * 10 ^ (digits - 1 - k) := by
    have scale : (0 : ℚ) < 10 ^ (digits - 1 - k) := by positivity
    refine (eq_of_near ?_).symm
    rw [fine] at near
    generalize roundTo num den _ = d at near ⊢
    have scaled : ((n * 10 ^ (digits - 1 - k) : Nat) : ℚ) - d =
        (n - d * (10 ^ (digits - 1 - k))⁻¹) * 10 ^ (digits - 1 - k) := by
      push_cast
      field_simp
    rw [scaled, abs_mul, abs_of_pos scale]
    calc |(n : ℚ) - d * (10 ^ (digits - 1 - k))⁻¹| * 10 ^ (digits - 1 - k)
        ≤ (10 ^ (digits - 1 - k))⁻¹ / 2 * 10 ^ (digits - 1 - k) := by gcongr
      _ = 1 / 2 := by field_simp
  have room : n * 10 ^ (digits - 1 - k) ≠ 10 ^ digits := by
    have below : n < 10 ^ (k + 1) := by exact_mod_cast high
    have split : 10 ^ digits = 10 ^ (k + 1) * 10 ^ (digits - 1 - k) := by
      rw [← pow_add]
      congr 1
      omega
    rw [split]
    exact (Nat.mul_lt_mul_of_pos_right below (by positivity)).ne
  refine ⟨k, by omega, ?_⟩
  rw [exact, if_neg room]

/-- The last `width` digits of a number. -/
def lastDigits : Nat → Nat → List Char
  | 0, _ => []
  | width + 1, n => lastDigits width (n / 10) ++ [Nat.digitChar (n % 10)]

theorem isDigit_lastDigits (width n : Nat) : ∀ c ∈ lastDigits width n, c.isDigit = true := by
  induction width generalizing n with
  | zero => simp [lastDigits]
  | succ width ih =>
    intro c inside
    rcases List.mem_append.mp inside with inside | inside
    · exact ih (n / 10) c inside
    · rw [List.mem_singleton.mp inside, Nat.isDigit_digitChar]
      exact decide_eq_true (Nat.mod_lt n (by decide))

theorem digitChar_eq_zero_iff {n : Nat} (small : n < 10) : Nat.digitChar n = '0' ↔ n = 0 := by
  revert n
  decide

theorem lastDigits_zero_iff (width n : Nat) : (∀ c ∈ lastDigits width n, c = '0') ↔ 10 ^ width ∣ n := by
  induction width generalizing n with
  | zero => simp [lastDigits]
  | succ width ih =>
    have last := digitChar_eq_zero_iff (Nat.mod_lt n (by decide : 10 > 0))
    simp only [lastDigits, List.forall_mem_append, List.forall_mem_singleton, ih, last]
    rw [pow_succ, Nat.mul_comm]
    constructor
    · rintro ⟨⟨q, quotient⟩, whole⟩
      exact ⟨q, by rw [Nat.mul_assoc, ← quotient]; omega⟩
    · rintro ⟨q, rfl⟩
      rw [Nat.mul_assoc]
      simp

namespace Number.Written

/-- `d` with the point before its last `places` digits, and no zeros at the end of those. -/
def pointed (negative : Bool) (d places : Nat) (exponent : Option Int) : Written where
  negative
  whole := Nat.toDigits 10 (d / 10 ^ places)
  part := Text.stripEnd (· == '0') (lastDigits places d)
  exponent
  nonempty := Nat.toDigits_ne_nil
  digits := by
    intro c inside
    rcases List.mem_append.mp inside with inside | inside
    · exact isDigit_toDigits _ c inside
    · rw [Text.stripEnd, List.mem_reverse] at inside
      exact isDigit_lastDigits places d c (List.mem_reverse.mp ((List.dropWhile_sublist _).subset inside))

theorem pointed_isWhole (negative : Bool) (d places : Nat) (exponent : Option Int) :
    (pointed negative d places exponent).isWhole = true ↔ exponent = none ∧ 10 ^ places ∣ d := by
  rw [← lastDigits_zero_iff]
  simp [isWhole, pointed, Text.stripEnd, List.dropWhile_eq_nil_iff, and_comm]

theorem pointed_value (negative : Bool) (d places : Nat) (exponent : Option Int) :
    digitsValue 10 (pointed negative d places exponent).whole = d / 10 ^ places := digitsValue_toDigits _

theorem pointed_length {negative : Bool} {d places digits : Nat} {exponent : Option Int} (some : 0 < digits)
    (short : d < 10 ^ digits) : (pointed negative d places exponent).whole.length ≤ digits :=
  (Nat.length_toDigits_le_iff (by decide) some).mpr ((Nat.div_le_self d _).trans_lt short)

end Number.Written

/-- A finite number of a format. -/
structure FloatFormat.Finite (f : FloatFormat) where
  negative : Bool
  significand : Nat
  exponent : Int
  fits : significand < 2 ^ f.precision
  least : f.minExponent ≤ exponent
  greatest : exponent ≤ f.maxExponent

namespace FloatFormat.Finite

variable {f : FloatFormat} (x : f.Finite)

def toRat : ℚ := (if x.negative then -1 else 1) * (x.significand * 2 ^ x.exponent)

/-- The number with so many significant digits: positional from `0.0001` on to where the digits end, otherwise with an
exponent. -/
def general (digits : Nat) : Number.Written :=
  if x.significand = 0 then .pointed x.negative 0 0 none
  else
    let ratio := scaleQuotient x.significand 1 (-x.exponent)
    let (d, top) := leading digits ratio.1 ratio.2
    if top < -4 ∨ digits ≤ top then .pointed x.negative d (digits - 1) (some top)
    else .pointed x.negative d (digits - 1 - top).toNat none

example : ((⟨true, 5836665117072162, -109, by decide, by decide, by decide⟩ : binary64.Finite).general 17).text =
    "-8.9928064994637667e-18".toList := by decide +kernel

theorem ratio_eq : 0 < (scaleQuotient x.significand 1 (-x.exponent)).2 ∧
    ((scaleQuotient x.significand 1 (-x.exponent)).1 / (scaleQuotient x.significand 1 (-x.exponent)).2 : ℚ) =
      x.significand * 2 ^ x.exponent := by
  obtain ⟨positive, scaled⟩ := scaleQuotient_spec x.significand Nat.one_pos (-x.exponent)
  have nonzero : ((scaleQuotient x.significand 1 (-x.exponent)).2 : ℚ) ≠ 0 := by exact_mod_cast positive.ne'
  refine ⟨positive, ?_⟩
  rw [scaled, mul_div_cancel_right₀ _ nonzero, zpow_neg, div_inv_eq_mul, Nat.cast_one, div_one]

theorem ratio_ne_zero (nonzero : x.significand ≠ 0) : (scaleQuotient x.significand 1 (-x.exponent)).1 ≠ 0 := by
  have power (e : Nat) : 2 ^ e ≠ 0 := (Nat.two_pow_pos e).ne'
  unfold scaleQuotient
  split
  · exact nonzero
  · exact Nat.mul_ne_zero nonzero (power _)

/- With digits enough for the format, the numbers of the format are further apart than half a unit of the last digit:
one that is so near to an integer is the integer. -/
theorem eq_of_near_natural {digits n : Nat} (some : 0 < digits) (enough : 2 ^ f.precision ≤ 2 * 10 ^ (digits - 1))
    {k : Int} (positional : k < digits) (low : (10 : ℚ) ^ k ≤ x.significand * 2 ^ x.exponent)
    (near : |(x.significand * 2 ^ x.exponent : ℚ) - n| ≤ 10 ^ (k - digits + 1) / 2) :
    (x.significand * 2 ^ x.exponent : ℚ) = n := by
  have fits : (x.significand : ℚ) < 2 ^ f.precision := by exact_mod_cast x.fits
  have enough : (2 ^ f.precision : ℚ) ≤ 2 * 10 ^ (digits - 1) := by exact_mod_cast enough
  by_cases up : 0 ≤ x.exponent
  · have power : (x.significand * 2 ^ x.exponent : ℚ) = (x.significand * 2 ^ x.exponent.toNat : Nat) := by
      push_cast
      rw [← zpow_natCast, Int.toNat_of_nonneg up]
    have fine : (10 : ℚ) ^ (k - digits + 1) ≤ 1 := zpow_le_one_of_nonpos₀ (by norm_num) (by omega)
    rw [power] at near ⊢
    have same := eq_of_near (near.trans (by linarith))
    exact_mod_cast same
  · have power : (2 : ℚ) ^ (-x.exponent).toNat * 2 ^ x.exponent = 1 := by
      rw [← zpow_natCast, Int.toNat_of_nonneg (by omega), ← zpow_add₀ two_ne_zero, neg_add_cancel, zpow_zero]
    have unit : (0 : ℚ) < 2 ^ x.exponent := by positivity
    -- the difference is a multiple of the number's unit, and half a unit of the last digit is less
    have multiple : (x.significand * 2 ^ x.exponent : ℚ) - n =
        ((x.significand : Int) - n * 2 ^ (-x.exponent).toNat : Int) * 2 ^ x.exponent := by
      push_cast
      rw [sub_mul, mul_assoc, power, mul_one]
    have apart : (10 : ℚ) ^ (k - digits + 1) / 2 < 2 ^ x.exponent := by
      have shifted : (10 : ℚ) ^ (k - digits + 1) * 10 ^ (digits - 1) = 10 ^ k := by
        rw [← zpow_natCast, ← zpow_add₀ (by norm_num)]
        congr 1
        omega
      have scale : (0 : ℚ) < 10 ^ (digits - 1) := by positivity
      have below : (10 : ℚ) ^ (k - digits + 1) * 10 ^ (digits - 1) < 2 * 2 ^ x.exponent * 10 ^ (digits - 1) :=
        calc (10 : ℚ) ^ (k - digits + 1) * 10 ^ (digits - 1) ≤ x.significand * 2 ^ x.exponent := shifted ▸ low
          _ < 2 ^ f.precision * 2 ^ x.exponent := by gcongr
          _ ≤ 2 * 10 ^ (digits - 1) * 2 ^ x.exponent := by gcongr
          _ = 2 * 2 ^ x.exponent * 10 ^ (digits - 1) := by ring
      linarith [lt_of_mul_lt_mul_right below scale.le]
    have zero : ((x.significand : Int) - n * 2 ^ (-x.exponent).toNat) = 0 := by
      by_contra other
      have least : (1 : ℚ) ≤ |(((x.significand : Int) - n * 2 ^ (-x.exponent).toNat : Int) : ℚ)| := by
        exact_mod_cast Int.one_le_abs other
      rw [multiple, abs_mul, abs_of_pos unit] at near
      nlinarith
    rw [zero, Int.cast_zero, zero_mul] at multiple
    linarith

theorem general_negative (digits : Nat) : (x.general digits).negative = x.negative := by
  unfold general
  dsimp only
  split
  · rfl
  · split
    · rfl
    · rfl

theorem general_length {digits : Nat} (some : 0 < digits) : (x.general digits).whole.length ≤ digits := by
  obtain ⟨positive, ratio⟩ := x.ratio_eq
  unfold general
  dsimp only
  split
  · exact Number.Written.pointed_length some (by positivity)
  · rename_i nonzero
    have short := (leading_spec some (x.ratio_ne_zero nonzero) positive).1
    split
    · exact Number.Written.pointed_length some short
    · exact Number.Written.pointed_length some short

/- What is written without point and exponent is the number itself. The other way round, an integer is written so as
long as it has no more than the digits asked for. -/
theorem general_whole_iff {digits : Nat} (some : 0 < digits) (enough : 2 ^ f.precision ≤ 2 * 10 ^ (digits - 1))
    (n : Nat) : ((x.general digits).isWhole = true ∧ Number.digitsValue 10 (x.general digits).whole = n) ↔
      (x.significand * 2 ^ x.exponent : ℚ) = n ∧ n < 10 ^ digits := by
  obtain ⟨positive, ratio⟩ := x.ratio_eq
  unfold general
  dsimp only
  split
  · rename_i zero
    rw [Number.Written.pointed_isWhole, Number.Written.pointed_value, zero, Nat.cast_zero, zero_mul]
    constructor
    · rintro ⟨-, rfl⟩
      simp
    · rintro ⟨same, -⟩
      have same : n = 0 := by exact_mod_cast same.symm
      simp [same]
  · rename_i nonzero
    have nonzero := x.ratio_ne_zero nonzero
    have natural (whole : (x.significand * 2 ^ x.exponent : ℚ) = n) (short : n < 10 ^ digits) :=
      leading_of_natural nonzero positive (ratio.trans whole) short
    obtain ⟨bound, k, below, low, near⟩ := leading_spec some nonzero positive
    rw [ratio] at low near
    generalize leading digits _ _ = result at natural bound below near ⊢
    obtain ⟨d, top⟩ := result
    dsimp only at bound below near ⊢
    split
    · rename_i scientific
      rw [Number.Written.pointed_isWhole]
      constructor
      · rintro ⟨⟨absent, -⟩, -⟩
        cases absent
      · rintro ⟨whole, short⟩
        obtain ⟨j, less, found⟩ := natural whole short
        cases found
        omega
    · rename_i positional
      rw [Number.Written.pointed_isWhole, Number.Written.pointed_value]
      constructor
      · rintro ⟨⟨-, divides⟩, rfl⟩
        obtain ⟨m, rfl⟩ := divides
        have scale : 10 ^ (digits - 1 - top).toNat * m / 10 ^ (digits - 1 - top).toNat = m :=
          Nat.mul_div_cancel_left m (by positivity)
        rw [scale]
        have exact : ((10 ^ (digits - 1 - top).toNat * m : Nat) : ℚ) * 10 ^ (top - digits + 1) = m := by
          have cancel : (10 : ℚ) ^ (digits - 1 - top).toNat * 10 ^ (top - digits + 1) = 1 := by
            rw [← zpow_natCast, ← zpow_add₀ (by norm_num), Int.toNat_of_nonneg (by omega), ← zpow_zero 10]
            congr 1
            omega
          push_cast
          rw [mul_right_comm, cancel, one_mul]
        rw [exact] at near
        refine ⟨x.eq_of_near_natural some enough (by omega) low near, ?_⟩
        exact (Nat.le_mul_of_pos_left m (by positivity)).trans_lt bound
      · rintro ⟨whole, short⟩
        obtain ⟨j, less, found⟩ := natural whole short
        cases found
        have places : ((digits : Int) - 1 - j).toNat = digits - 1 - j := by omega
        rw [places]
        exact ⟨⟨rfl, Nat.dvd_mul_left _ _⟩, Nat.mul_div_cancel n (by positivity)⟩

theorem general_integer_iff {digits : Nat} (some : 0 < digits) (enough : 2 ^ f.precision ≤ 2 * 10 ^ (digits - 1))
    (n : Int) : ((x.general digits).isWhole = true ∧ (x.general digits).integer = n) ↔
      x.toRat = n ∧ n.natAbs < 10 ^ digits := by
  have nonneg : (0 : ℚ) ≤ x.significand * 2 ^ x.exponent := by positivity
  have magnitude := x.general_whole_iff some enough n.natAbs
  rw [Number.Written.integer, x.general_negative, toRat]
  generalize Number.digitsValue 10 _ = v at magnitude ⊢
  generalize (x.significand * 2 ^ x.exponent : ℚ) = q at nonneg magnitude ⊢
  -- the signs agree, so both sides come down to the magnitude
  have integral : (if x.negative then -(v : Int) else v) = n ↔
      (if x.negative then n ≤ 0 else 0 ≤ n) ∧ v = n.natAbs := by
    split <;> omega
  have rational : (if x.negative then -1 else 1) * q = n ↔
      (if x.negative then n ≤ 0 else 0 ≤ n) ∧ q = n.natAbs := by
    split
    · constructor
      · intro same
        have sign : n ≤ 0 := by
          have : (n : ℚ) ≤ 0 := by linarith
          exact_mod_cast this
        refine ⟨sign, ?_⟩
        rw [Nat.cast_natAbs, abs_of_nonpos sign]
        push_cast
        linarith
      · rintro ⟨sign, rfl⟩
        rw [Nat.cast_natAbs, abs_of_nonpos sign]
        push_cast
        ring
    · constructor
      · intro same
        have sign : 0 ≤ n := by
          have : (0 : ℚ) ≤ n := by linarith
          exact_mod_cast this
        refine ⟨sign, ?_⟩
        rw [Nat.cast_natAbs, abs_of_nonneg sign]
        linarith
      · rintro ⟨sign, rfl⟩
        rw [Nat.cast_natAbs, abs_of_nonneg sign, one_mul]
  rw [integral, rational, and_left_comm, magnitude, and_assoc]

end FloatFormat.Finite

end CBindings
