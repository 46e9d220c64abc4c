/-! Plain operations on texts as lists of characters: cutting, splitting, searching. -/
namespace CBindings.Text

/-- Membership in a table of code point ranges, both ends included. -/
def inRanges (table : List (Nat × Nat)) (c : Char) : Bool :=
  table.any fun r => r.1 ≤ c.toNat && c.toNat ≤ r.2

def stripStart (p : Char → Bool) (s : List Char) : List Char := s.dropWhile p

def stripEnd (p : Char → Bool) (s : List Char) : List Char := (s.reverse.dropWhile p).reverse

def strip (p : Char → Bool) (s : List Char) : List Char := stripEnd p (stripStart p s)

/- `skip` counts the characters of a separator that are still to be passed. -/
def splitFrom (sep : List Char) : Nat → List Char → List Char → List (List Char)
  | _, piece, [] => [piece.reverse]
  | skip + 1, piece, _ :: rest => splitFrom sep skip piece rest
  | 0, piece, c :: rest =>
    if sep.isPrefixOf (c :: rest) then piece.reverse :: splitFrom sep (sep.length - 1) [] rest
    else splitFrom sep 0 (c :: piece) rest

/-- The pieces between the occurrences of a nonempty separator, found from the left. -/
def splitOn (sep s : List Char) : List (List Char) := splitFrom sep 0 [] s

def occursIn (part : List Char) : List Char → Bool
  | [] => part.isEmpty
  | c :: rest => part.isPrefixOf (c :: rest) || occursIn part rest

/-- The text before the first `c`, and what follows it if there is one. -/
def cutAt (c : Char) : List Char → List Char × Option (List Char)
  | [] => ([], none)
  | d :: rest =>
    if d = c then ([], some rest)
    else let (before, after) := cutAt c rest
      (d :: before, after)

/-- The text after the last `c`, or all of it. -/
def afterLast (c : Char) (s : List Char) : List Char := (s.reverse.takeWhile (· != c)).reverse

/-- The text before the last `c`, or all of it. -/
def beforeLast (c : Char) (s : List Char) : List Char :=
  if s.contains c then ((s.reverse.dropWhile (· != c)).drop 1).reverse else s

def concat (parts : List String) : String := parts.foldl (· ++ ·) ""

def join (sep : String) : List String → String
  | [] => ""
  | [s] => s
  | s :: rest => s ++ sep ++ join sep rest

end CBindings.Text
