/-! UTF-8: the bytes of a text, and the text of any bytes. Where bytes are no text, each longest start of
a character that cannot go on becomes one replacement character. -/
namespace CBindings.Text.Utf8

def encodeChar (c : Char) : List UInt8 :=
  let n := c.toNat
  let tail (shift : Nat) : UInt8 := (0x80 + n / Nat.pow 2 shift % 64).toUInt8
  if n < 0x80 then [n.toUInt8]
  else if n < 0x800 then [(0xC0 + n / 64).toUInt8, tail 0]
  else if n < 0x10000 then [(0xE0 + n / 4096).toUInt8, tail 6, tail 0]
  else [(0xF0 + n / 262144).toUInt8, tail 12, tail 6, tail 0]

def encode (s : List Char) : List UInt8 := s.flatMap encodeChar

/- A character whose first bytes are read: how many more it takes, where the next one must lie, and the
bits so far. -/
structure Open where
  missing : Nat
  low : Nat
  high : Nat
  bits : Nat

inductive Lead where
  | whole (c : Char)
  | opens (s : Open)
  | never

def lead (b : UInt8) : Lead :=
  let n := b.toNat
  if n < 0x80 then .whole (Char.ofNat n)
  else if n < 0xC2 then .never
  else if n < 0xE0 then .opens ⟨0, 0x80, 0xBF, n - 0xC0⟩
  else if n < 0xF0 then
    .opens ⟨1, if n = 0xE0 then 0xA0 else 0x80, if n = 0xED then 0x9F else 0xBF, n - 0xE0⟩
  else if n < 0xF5 then
    .opens ⟨2, if n = 0xF0 then 0x90 else 0x80, if n = 0xF4 then 0x8F else 0xBF, n - 0xF0⟩
  else .never

def replacement : Char := '�'

/- After `s` has read its bytes, `b` either goes on with it or cannot. -/
inductive Next where
  | whole (c : Char)
  | opens (s : Open)
  | breaks

def Open.next (s : Open) (b : UInt8) : Next :=
  let n := b.toNat
  if s.low ≤ n ∧ n ≤ s.high then
    let bits := s.bits * 64 + (n - 0x80)
    match s.missing with
    | 0 => .whole (Char.ofNat bits)
    | k + 1 => .opens ⟨k, 0x80, 0xBF, bits⟩
  else .breaks

def decodeFrom : Option Open → List UInt8 → List Char
  | none, [] => []
  | some _, [] => [replacement]
  | none, b :: rest =>
    match lead b with
    | .whole c => c :: decodeFrom none rest
    | .opens s => decodeFrom (some s) rest
    | .never => replacement :: decodeFrom none rest
  | some s, b :: rest =>
    match s.next b with
    | .whole c => c :: decodeFrom none rest
    | .opens s => decodeFrom (some s) rest
    | .breaks =>
      match lead b with
      | .whole c => replacement :: c :: decodeFrom none rest
      | .opens s => replacement :: decodeFrom (some s) rest
      | .never => replacement :: replacement :: decodeFrom none rest

def decode (bytes : List UInt8) : List Char := decodeFrom none bytes

end CBindings.Text.Utf8

namespace CBindings.Text

/-- The first bytes of a text, for messages that leave only so much room. -/
def clip (limit : Nat) (s : String) : String := String.ofList (Utf8.decode ((Utf8.encode s.toList).take limit))

end CBindings.Text
