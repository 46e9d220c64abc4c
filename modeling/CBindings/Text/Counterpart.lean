import CBindings.Text.Case

/-! Characters that differ in case only. -/
namespace CBindings.Text

/-- Small letters that share a capital. -/
def sharedCapitals : List (List Nat) :=
  [[105, 305], [115, 383], [181, 956], [837, 953, 8126], [912, 8147], [944, 8163], [946, 976],
   [949, 1013], [952, 977], [954, 1008], [960, 982], [961, 1009], [962, 963], [966, 981], [1074, 7296],
   [1076, 7297], [1086, 7298], [1089, 7299], [1090, 7300, 7301], [1098, 7302], [1123, 7303],
   [7304, 42571], [7777, 7835], [64261, 64262]]

/-- The capitals of a small letter, each one character. -/
def capitalsOf (n : Nat) : List Nat :=
  caseRuns.filterMap fun r =>
    let m := ((n : Int) - r.shift).toNat
    if r.covers m then some m else none

def asciiCounterparts (c : Char) : List Nat := [c.toLower.toNat, c.toUpper.toNat]

/-- All characters that are the same letter as `c`, itself among them. -/
def counterparts (c : Char) : List Nat :=
  let small := (lower c).toNat
  let smalls := small :: (sharedCapitals.filter (·.contains small)).flatten
  c.toNat :: smalls ++ smalls.flatMap fun n => (Char.ofNat n).toUpper.toNat :: capitalsOf n

end CBindings.Text
