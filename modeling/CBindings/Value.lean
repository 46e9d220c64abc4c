import CBindings.Number.Shortest
import CBindings.Text.Quoted

/-! Values of constants, and their texts. -/
namespace CBindings

/-- The JSON text of a value by lines, each with its level, or why it has none. -/
inductive JsonLines where
  | written (lines : List (Nat × String))
  | refused (message : String)
deriving DecidableEq, Repr

/-- A tuple of values, by what is written of it: as messages quote it, if no number in it is too long to write, and as
JSON. -/
structure Tuple where
  quoted : Option String
  json : JsonLines
deriving DecidableEq, Repr

/-- Constants of headers are scalars. `points` is a text that holds surrogates, which are no characters. -/
inductive Value where
  | none
  | bool (b : Bool)
  | int (n : Int)
  | float (x : Binary64)
  | text (s : String)
  | points (codes : List Nat)
  | bytes (b : List UInt8)
  | tuple (t : Tuple)
deriving DecidableEq, Repr

/-- How the value of a constant is written in a header or printed by a probe. -/
inductive ConstantKind where
  | integer
  | float
  | string
  | char
  | bool
deriving DecidableEq, Repr

def ConstantKind.text : ConstantKind → String
  | .integer => "integer"
  | .float => "float"
  | .string => "string"
  | .char => "char"
  | .bool => "bool"

/-- An integer in decimal, as long as it has no more than 4300 digits. -/
def decimalText? (n : Int) : Option String :=
  if n.natAbs < Nat.pow 10 4300 then some (toString n) else Option.none

namespace Value

/-- The value as messages quote it; `none` for an integer that is too long to write. -/
def quoted? : Value → Option String
  | none => some "None"
  | bool b => some (if b then "True" else "False")
  | int n => decimalText? n
  | float x => some x.text
  | text s => some (Text.quote s)
  | points codes => some (Text.quotePoints codes)
  | bytes b => some (Text.quoteBytes b)
  | tuple t => t.quoted

/-- The text of these numbers. -/
def ofPoints (codes : List Nat) : Value :=
  match codes.mapM Text.charOf? with
  | some cs => text (String.ofList cs)
  | Option.none => points codes

theorem ofPoints_toNat (cs : List Char) : ofPoints (cs.map Char.toNat) = text (String.ofList cs) := by
  have chars : (cs.map Char.toNat).mapM Text.charOf? = some cs := by
    induction cs with
    | nil => rfl
    | cons c cs ih => simp [Text.charOf?_toNat, ih]
  rw [ofPoints, chars]

/-- The numbers of a text. -/
def codes? : Value → Option (List Nat)
  | text s => some (s.toList.map Char.toNat)
  | points codes => some codes
  | _ => Option.none

/-- The integer that a value is equal to: truth values count as 0 and 1, floats by their value. -/
def toInt? : Value → Option Int
  | bool b => some (if b then 1 else 0)
  | int n => some n
  | float x => x.toInt?
  | _ => Option.none

def neg : Value → Value
  | int n => int (-n)
  | float x => float x.neg
  | v => v

end Value

/-- What an expression comes to: a value, a refusal, or a fault that is not reckoned with. -/
inductive Evaluation where
  | value (v : Value)
  | refused
  | fault (message : String)
deriving DecidableEq, Repr

/-- An evaluator of expressions at large, asked where a text begins as a literal and is more than that. -/
abbrev Evaluator := List Char → Evaluation

def Evaluator.refusing : Evaluator := fun _ => .refused

end CBindings
