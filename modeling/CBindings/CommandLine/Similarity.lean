import CBindings.Text.Basic

/-! Texts that are like a given one. Two texts are compared by the longest part that they share, then by what is
left before it and what is left after it. -/
namespace CBindings.Similarity

/-- How many characters two texts have in common at their starts. -/
def commonStart : List Char → List Char → Nat
  | a :: as, b :: bs => if a == b then commonStart as bs + 1 else 0
  | _, _ => 0

structure Block where
  first : Nat
  second : Nat
  length : Nat
deriving DecidableEq, Repr

/-- The longest common part; of several the first, in the first text and then in the second. -/
def longestBlock (a b : List Char) : Block :=
  let places := (List.range a.length).flatMap fun i => (List.range b.length).map fun j => (i, j)
  places.foldl (fun best (i, j) =>
    let n := commonStart (a.drop i) (b.drop j)
    if best.length < n then ⟨i, j, n⟩ else best) ⟨0, 0, 0⟩

/-- How many characters are matched. Each round matches at least one, which bounds the rounds. -/
def matched : Nat → List Char → List Char → Nat
  | 0, _, _ => 0
  | fuel + 1, a, b =>
    let k := longestBlock a b
    if k.length = 0 then 0
    else
      k.length + matched fuel (a.take k.first) (b.take k.second)
        + matched fuel (a.drop (k.first + k.length)) (b.drop (k.second + k.length))

/-- Two fractions by their size. -/
structure Ratio where
  part : Nat
  whole : Nat
deriving DecidableEq, Repr

def Ratio.le (a b : Ratio) : Bool := a.part * b.whole ≤ b.part * a.whole

/-- The matched characters of both texts among all of them. -/
def ratio (a b : List Char) : Ratio := ⟨2 * matched (a.length + 1) a b, a.length + b.length⟩

/-- Better first; of equals the one that comes later in order. -/
def comesBefore (x y : Ratio × String) : Bool :=
  if x.1.le y.1 && y.1.le x.1 then !(x.2 < y.2) else y.1.le x.1

/-- The best three of the candidates that are at least three fifths alike, in order. -/
def closest (candidates : List String) (word : String) : List String :=
  let scored := candidates.map fun c => (ratio c.toList word.toList, c)
  let good := scored.filter fun s => Ratio.le ⟨3, 5⟩ s.1
  (((good.mergeSort comesBefore).take 3).map (·.2)).mergeSort fun a b => !(b < a)

end CBindings.Similarity
