import CBindings.Document
import CBindings.Location
import CBindings.Number.Reading
import CBindings.Value

/-! Documents as an exchange format: scalars, and members of objects. A member that is null counts as absent. -/
namespace CBindings

mutual
/-- How many documents stand inside each other. -/
def Document.depth {ε : Type} : Document ε → Nat
  | .list items => depthOfItems items + 1
  | .object members => depthOfMembers members + 1
  | _ => 1

def depthOfItems {ε : Type} : List (Document ε) → Nat
  | [] => 0
  | d :: rest => max d.depth (depthOfItems rest)

def depthOfMembers {ε : Type} : List (String × Document ε) → Nat
  | [] => 0
  | (_, d) :: rest => max d.depth (depthOfMembers rest)
end

abbrev Tree := Document Empty

inductive ReadFault where
  | missing (key : String)
  | unexpected (wanted : String)
deriving DecidableEq, Repr

def ReadFault.message : ReadFault → String
  | .missing key => "no member " ++ key
  | .unexpected wanted => wanted ++ " expected"

abbrev Read := Except ReadFault

namespace Tree

def ofInteger (n : Int) : Tree := .number (toString n)

def orNull {α : Type} (write : α → Tree) : Option α → Tree
  | some a => write a
  | none => .null

def texts (xs : List String) : Tree := .list (xs.map .text)

def entries : Tree → List (String × Tree)
  | .object members => members
  | _ => []

def entry? (d : Tree) (key : String) : Option Tree := d.entries.lookup key

def member? (d : Tree) (key : String) : Option Tree :=
  match d.entry? key with
  | some .null => none
  | found => found

def asText : Tree → Read String
  | .text s => .ok s
  | _ => .error (.unexpected "text")

def asFlag : Tree → Read Bool
  | .bool b => .ok b
  | _ => .error (.unexpected "flag")

def asInteger : Tree → Read Int
  | .number t =>
    match t.toInt? with
    | some n => .ok n
    | none => .error (.unexpected "integer")
  | _ => .error (.unexpected "integer")

def asNatural (d : Tree) : Read Nat := do
  match ← d.asInteger with
  | .ofNat n => return n
  | _ => .error (.unexpected "natural number")

def asList : Tree → Read (List Tree)
  | .list ds => .ok ds
  | _ => .error (.unexpected "list")

def listOf {α : Type} (read : Tree → Read α) (d : Tree) : Read (List α) := do (← d.asList).mapM read

def required {α : Type} (read : Tree → Read α) (d : Tree) (key : String) : Read α :=
  match d.entry? key with
  | some v => read v
  | none => .error (.missing key)

def optional {α : Type} (read : Tree → Read α) (d : Tree) (key : String) : Read (Option α) :=
  (d.member? key).mapM read

def withDefault {α : Type} (default : α) (read : Tree → Read α) (d : Tree) (key : String) : Read α := do
  return (← d.optional read key).getD default

/-! Values and locations -/

def integerText (n : Int) : String :=
  let hex (n : Nat) : String := "0x" ++ String.ofList (Nat.toDigits 16 n)
  if n.natAbs < Nat.pow 2 256 then toString n else if n < 0 then "-" ++ hex n.natAbs else hex n.natAbs

def integerOf (s : String) : Int :=
  let (negative, cs) := Number.splitSign s.toList
  let n : Int := if cs.contains 'x' then Number.digitsValue 16 (cs.drop 2) else Number.digitsValue 10 cs
  if negative then -n else n

def bytesOf : List Char → List UInt8
  | a :: b :: rest => (Number.digitsValue 16 [a, b]).toUInt8 :: bytesOf rest
  | _ => []

/-- Each value says of which kind it is. -/
def ofValue : Value → Tree
  | .none => .null
  | .bool b => .object [("bool", .bool b)]
  | .int n => .object [("int", .text (integerText n))]
  | .float x => .object [("float", .text x.text)]
  | .text s => .object [("str", .text s)]
  | .points codes => .object [("points", .list (codes.map fun n : Nat => ofInteger n))]
  | .tuple t => .object [("tuple", orNull .text t.quoted)]
  | .bytes b => .object [("bytes", .text (String.ofList (b.flatMap fun x => Text.hexDigits 2 x.toNat)))]

def asValue : Tree → Read Value
  | .null => .ok .none
  | .object [("bool", .bool b)] => .ok (.bool b)
  | .object [("int", .text s)] => .ok (.int (integerOf s))
  | .object [("float", .text s)] =>
    match Number.readDecimal s.toList with
    | some x => .ok (.float x)
    | none => .error (.unexpected "float")
  | .object [("str", .text s)] => .ok (.text s)
  | .object [("bytes", .text s)] => .ok (.bytes (bytesOf s.toList))
  | _ => .error (.unexpected "value")

def ofLocation (l : Location) : Tree := .list [.text l.file, ofInteger l.line, orNull ofInteger l.column]

def asLocation (d : Tree) : Read Location := do
  match ← d.asList with
  | [file, line] => return { file := ← file.asText, line := ← line.asInteger }
  | [file, line, .null] => return { file := ← file.asText, line := ← line.asInteger }
  | [file, line, column] =>
    return { file := ← file.asText, line := ← line.asInteger, column := some (← column.asInteger) }
  | _ => .error (.unexpected "location")

end Tree

end CBindings
