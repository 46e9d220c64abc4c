import CBindings.Declaration

/-! Names of constants by their integer value. -/
namespace CBindings

/-- Values in the order in which they came, each with its names in that order. -/
structure ConstantIndex where
  table : List (Int × List String) := []
deriving DecidableEq, Repr

namespace ConstantIndex

def namesOf (i : ConstantIndex) (n : Int) : List String := (i.table.lookup n).getD []

def insert (i : ConstantIndex) (n : Int) (name : String) : ConstantIndex :=
  if (i.namesOf n).contains name then i else ⟨addName n name i.table⟩

/-- Only integers are kept, and truth values are none. -/
def add (i : ConstantIndex) (v : Value) (name : String) : ConstantIndex :=
  match v with
  | .int n => i.insert n name
  | _ => i

/-- The names of a value; one that is equal to an integer has the integer's names. -/
def names (i : ConstantIndex) (v : Value) : List String :=
  match v.toInt? with
  | some n => i.namesOf n
  | none => []

def contains (i : ConstantIndex) (v : Value) : Bool := v.toInt?.any fun n => (i.table.lookup n).isSome

def size (i : ConstantIndex) : Nat := i.table.length

end ConstantIndex

end CBindings
