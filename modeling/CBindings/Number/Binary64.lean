/-! Floating-point numbers as signed integers times powers of two. Nothing here computes with them: they
are read, negated, compared with integers, rounded to a narrower format and written. -/
namespace CBindings

/-- A binary format: bits of the significand, and the exponents of its unit. -/
structure FloatFormat where
  precision : Nat
  minExponent : Int
  maxExponent : Int

def binary64 : FloatFormat := ⟨53, -1074, 971⟩

def binary32 : FloatFormat := ⟨24, -149, 104⟩

/-- A quotient to the nearest integer, a half to the even one. -/
def roundQuotient (a b : Nat) : Nat :=
  let q := a / b
  let r := a % b
  if b < 2 * r ∨ (2 * r = b ∧ q % 2 = 1) then q + 1 else q

/-- `num / (den * 2 ^ e)` as a quotient of naturals. -/
def scaleQuotient (num den : Nat) (e : Int) : Nat × Nat :=
  if 0 ≤ e then (num, den * Nat.pow 2 e.toNat) else (num * Nat.pow 2 (-e).toNat, den)

/-- The unit in which the quotient has `precision` bits before rounding, no finer than the finest. -/
def FloatFormat.unit (f : FloatFormat) (num den : Nat) : Int :=
  let e : Int := (num.log2 : Int) - den.log2 - f.precision
  let (a, b) := scaleQuotient num den e
  max f.minExponent (if a / b < Nat.pow 2 f.precision then e else e + 1)

/-- Significand and exponent of the number of the format that is nearest to `num / den`, a tie to the
even significand; `none` when it is beyond the largest. -/
def FloatFormat.round (f : FloatFormat) (num den : Nat) : Option (Nat × Int) :=
  if num = 0 then some (0, f.minExponent)
  else
    let e := f.unit num den
    let (a, b) := scaleQuotient num den e
    let m := roundQuotient a b
    let (m, e) := if m = Nat.pow 2 f.precision then (m / 2, e + 1) else (m, e)
    if f.maxExponent < e then none else some (m, e)

/-- `finite s m e` is `m * 2 ^ e` with sign `s`; `m` has at most 53 bits, and exactly 53 unless `e` is the
least exponent. Zero keeps its sign. -/
inductive Binary64 where
  | nan
  | infinite (negative : Bool)
  | finite (negative : Bool) (significand : Nat) (exponent : Int)
deriving DecidableEq, Repr

namespace Binary64

def zero : Binary64 := .finite false 0 (-1074)

def ofRatio (negative : Bool) (num den : Nat) : Binary64 :=
  match binary64.round num den with
  | some (m, e) => .finite negative m e
  | none => .infinite negative

def ofInt (n : Int) : Binary64 := ofRatio (decide (n < 0)) n.natAbs 1

/-- `m * 10 ^ e`, correctly rounded. Magnitudes far outside the format are settled by their digits. -/
def ofDecimal (negative : Bool) (m : Nat) (e : Int) : Binary64 :=
  let digits : Int := (Nat.toDigits 10 m).length
  if m = 0 ∨ digits + e < -400 then .finite negative 0 (-1074)
  else if 400 < digits + e then .infinite negative
  else if 0 ≤ e then ofRatio negative (m * Nat.pow 10 e.toNat) 1
  else ofRatio negative m (Nat.pow 10 (-e).toNat)

/-- `m * 2 ^ e`, correctly rounded. -/
def ofBinary (negative : Bool) (m : Nat) (e : Int) : Binary64 :=
  let bits : Int := m.log2
  if m = 0 ∨ bits + e < -1100 then .finite negative 0 (-1074)
  else if 1100 < bits + e then .infinite negative
  else if 0 ≤ e then ofRatio negative (m * Nat.pow 2 e.toNat) 1
  else ofRatio negative m (Nat.pow 2 (-e).toNat)

def neg : Binary64 → Binary64
  | nan => nan
  | infinite s => infinite !s
  | finite s m e => finite (!s) m e

def isZero : Binary64 → Bool
  | finite _ m _ => m == 0
  | _ => false

/-- The integer that a number is equal to, if it is one. -/
def toInt? : Binary64 → Option Int
  | finite s m e =>
    let signed (n : Nat) : Int := if s then -(n : Int) else n
    if 0 ≤ e then some (signed (m * Nat.pow 2 e.toNat))
    else if m % Nat.pow 2 (-e).toNat = 0 then some (signed (m / Nat.pow 2 (-e).toNat))
    else none
  | _ => none

end Binary64

end CBindings
