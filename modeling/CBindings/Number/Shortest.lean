import CBindings.Number.Binary64
import CBindings.Text.Basic

/-! The text of a floating-point number: the fewest digits that read back as it, and of those the
nearest. -/
namespace CBindings.Binary64

/-- The greatest `e` with `10 ^ e ≤ num / den`, for positive `num` and `den`. -/
def decimalExponent (num den : Nat) : Int :=
  let a := (Nat.toDigits 10 num).length
  let b := (Nat.toDigits 10 den).length
  let reached := if b ≤ a then den * Nat.pow 10 (a - b) ≤ num else den ≤ num * Nat.pow 10 (b - a)
  if reached then (a : Int) - b else (a : Int) - b - 1

/- Everything is counted in quarters of the number's unit over a common denominator: the number itself,
and the two points halfway to its neighbours, which read back as it when the significand is even. -/
structure Interval where
  value : Nat
  low : Nat
  high : Nat
  denominator : Nat
  closed : Bool

def interval (m : Nat) (e : Int) : Interval :=
  let below := if m = Nat.pow 2 52 ∧ -1074 < e then 1 else 2
  let f := e - 2
  let (scale, den) := if 0 ≤ f then (Nat.pow 2 f.toNat, 1) else (1, Nat.pow 2 (-f).toNat)
  ⟨4 * m * scale, (4 * m - below) * scale, (4 * m + 2) * scale, den, m % 2 == 0⟩

/-- The interval counted in steps of `10 ^ k`. -/
def Interval.onGrid (i : Interval) (k : Int) : Interval :=
  if 0 ≤ k then { i with denominator := i.denominator * Nat.pow 10 k.toNat }
  else
    let t := Nat.pow 10 (-k).toNat
    { i with value := i.value * t, low := i.low * t, high := i.high * t }

def Interval.holds (i : Interval) (d : Nat) : Bool :=
  let x := d * i.denominator
  if i.closed then i.low ≤ x && x ≤ i.high else i.low < x && x < i.high

/-- Of the value's two neighbours on its grid, the one that reads back; of two, the nearer. -/
def Interval.candidate (i : Interval) : Option Nat :=
  let d := i.value / i.denominator
  match i.holds d, i.holds (d + 1) with
  | true, true => some (roundQuotient i.value i.denominator)
  | true, false => some d
  | false, true => some (d + 1)
  | false, false => none

/-- Digits and the power of ten of the last one, by the first grid from `n` digits on that has a hit. -/
def shortestFrom (i : Interval) (top : Int) : Nat → Nat → Nat × Int
  | 0, n => let k := top - n; ((i.onGrid k).value / (i.onGrid k).denominator, k)
  | fuel + 1, n =>
    match (i.onGrid (top - n)).candidate with
    | some d => (d, top - n)
    | none => shortestFrom i top fuel (n + 1)

def shortest (m : Nat) (e : Int) : Nat × Int :=
  let i := interval m e
  shortestFrom i (decimalExponent i.value i.denominator) 17 0

def exponentText (e : Int) : List Char :=
  let digits := Nat.toDigits 10 e.natAbs
  'e' :: (if e < 0 then '-' else '+') :: (if digits.length < 2 then '0' :: digits else digits)

/-- `0.d₁d₂… * 10 ^ point` is written positionally for `-4 < point ≤ 16`, with a digit on both sides of
the point; otherwise with an exponent of two digits or more. -/
def layOut (digits : List Char) (point : Int) : List Char :=
  if point ≤ -4 ∨ 16 < point then
    match digits with
    | [] => []
    | [d] => d :: exponentText (point - 1)
    | d :: rest => d :: '.' :: rest ++ exponentText (point - 1)
  else if point ≤ 0 then '0' :: '.' :: List.replicate (-point).toNat '0' ++ digits
  else
    let n := point.toNat
    if digits.length ≤ n then digits ++ List.replicate (n - digits.length) '0' ++ ['.', '0']
    else digits.take n ++ '.' :: digits.drop n

def text : Binary64 → String
  | .nan => "nan"
  | .infinite s => if s then "-inf" else "inf"
  | .finite s m e =>
    let body :=
      if m = 0 then ['0', '.', '0']
      else
        let (d, k) := shortest m e
        let all := Nat.toDigits 10 d
        let digits := Text.stripEnd (· == '0') all
        layOut digits (k + all.length)
    String.ofList (if s then '-' :: body else body)

end CBindings.Binary64
