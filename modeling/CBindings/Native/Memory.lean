/-! Memory as one natural number, its bytes from the lowest up. Memory that was never written is zero. -/
namespace CBindings

structure Memory where
  content : Nat := 0
  /-- Texts that pointers lead to. -/
  texts : List (List UInt8) := []
deriving DecidableEq, Repr

/-- The lowest `count` bits, without a power of two where none is needed. -/
def lowBits (n count : Nat) : Nat := if n.log2 < count then n else n % Nat.pow 2 count

def shiftUp (n count : Nat) : Nat := if n = 0 then 0 else n <<< count

namespace Memory

def read (m : Memory) (offset size : Nat) : Nat := lowBits (m.content >>> (8 * offset)) (8 * size)

def write (m : Memory) (offset size value : Nat) : Memory :=
  let stop := 8 * (offset + size)
  { m with
    content := lowBits m.content (8 * offset) + shiftUp (lowBits value (8 * size)) (8 * offset)
      + shiftUp (m.content >>> stop) stop }

def bytes (m : Memory) (offset count : Nat) : List UInt8 :=
  (List.range count).map fun i => (m.read (offset + i) 1).toUInt8

def ofBytes (b : List UInt8) : Nat := b.foldr (fun x n => x.toNat + 256 * n) 0

/-- Keeps a text, and gives the address where it can be found. -/
def keep (m : Memory) (text : List UInt8) : Memory × Nat :=
  ({ m with texts := m.texts ++ [text] }, (m.texts.length + 1) * Nat.pow 2 32)

def textAt (m : Memory) (address : Nat) : List UInt8 :=
  match m.texts[address / Nat.pow 2 32 - 1]? with
  | some text => text.takeWhile (· != 0)
  | none => []

end Memory

end CBindings
