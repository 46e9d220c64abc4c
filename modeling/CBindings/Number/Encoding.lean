import CBindings.Number.Binary64

/-! Floating-point numbers as the bits that memory holds: 64, 32 and 80 of them. -/
namespace CBindings.Binary64

/-- Sign, biased exponent and fraction, with a fraction of `fraction` bits and an exponent of `width` bits. -/
def packBits (width fraction : Nat) (negative : Bool) (biased m : Nat) : Nat :=
  (if negative then Nat.pow 2 (width + fraction) else 0) + biased * Nat.pow 2 fraction + m

def toBits : Binary64 → Nat
  | nan => packBits 11 52 false 2047 (Nat.pow 2 51)
  | infinite s => packBits 11 52 s 2047 0
  | finite s m e =>
    if m < Nat.pow 2 52 then packBits 11 52 s 0 m
    else packBits 11 52 s (e + 1075).toNat (m - Nat.pow 2 52)

def ofBits (bits : Nat) : Binary64 :=
  let negative := bits / Nat.pow 2 63 % 2 == 1
  let biased : Nat := bits / Nat.pow 2 52 % 2048
  let m := bits % Nat.pow 2 52
  if biased == 2047 then if m == 0 then infinite negative else nan
  else if biased == 0 then finite negative m (-1074)
  else finite negative (m + Nat.pow 2 52) ((biased : Int) - 1075)

/-- The bits of the nearest 32-bit number. -/
def toBits32 (x : Binary64) : Nat :=
  match x with
  | nan => packBits 8 23 false 255 (Nat.pow 2 22)
  | infinite s => packBits 8 23 s 255 0
  | finite s m e =>
    let (a, b) := if 0 ≤ e then (m * Nat.pow 2 e.toNat, 1) else (m, Nat.pow 2 (-e).toNat)
    match binary32.round a b with
    | none => packBits 8 23 s 255 0
    | some (m, e) =>
      if m < Nat.pow 2 23 then packBits 8 23 s 0 m
      else packBits 8 23 s (e + 150).toNat (m - Nat.pow 2 23)

def ofBits32 (bits : Nat) : Binary64 :=
  let negative := bits / Nat.pow 2 31 % 2 == 1
  let biased : Nat := bits / Nat.pow 2 23 % 256
  let m := bits % Nat.pow 2 23
  if biased == 255 then if m == 0 then infinite negative else nan
  else if biased == 0 then ofBinary negative m (-149)
  else ofBinary negative (m + Nat.pow 2 23) ((biased : Int) - 150)

/-- The 80-bit format writes the leading bit of the significand out. -/
def toBits80 : Binary64 → Nat
  | nan => packBits 15 64 false 32767 (3 * Nat.pow 2 62)
  | infinite s => packBits 15 64 s 32767 (Nat.pow 2 63)
  | finite s m e =>
    if m = 0 then packBits 15 64 s 0 0
    else packBits 15 64 s (e + m.log2 + 16383).toNat (m * Nat.pow 2 (63 - m.log2))

def ofBits80 (bits : Nat) : Binary64 :=
  let negative := bits / Nat.pow 2 79 % 2 == 1
  let biased : Nat := bits / Nat.pow 2 64 % 32768
  let m := bits % Nat.pow 2 64
  if biased == 32767 then if m == Nat.pow 2 63 then infinite negative else nan
  else ofBinary negative m ((max biased 1 : Nat) - 16446)

end CBindings.Binary64
