import CBindings.Native.Zero
import CBindings.Registry.Types

/-! What can be asked of a namespace after a registration: zero values, and names of constants. -/
namespace CBindings

inductive AccessFault where
  | missing (name : String)
  | noAttribute (owner name : String)
  | classHasNoAttribute (owner name : String)
  /-- Enumerations only say which name they lack. -/
  | noMember (name : String)
  | notCallable (owner : String)
  | zero (f : ZeroFault)
  | registration (f : RegistrationFault)
deriving DecidableEq, Repr

def AccessFault.message : AccessFault → String
  | .missing name => Text.quote name
  | .noAttribute owner name => (AttributeFault.missing owner name).message
  | .classHasNoAttribute owner name => (ClassFault.noAttribute owner name).message
  | .noMember name => name
  | .notCallable owner => (AttributeFault.notCallable owner).message
  | .zero f => f.message
  | .registration f => f.message

/-- Why something cannot be asked for `name`: it has no such thing, or has a member of that name. -/
def Binding.refusal (c : Classes) (name : String) : Binding → AccessFault
  | .value v => .noAttribute v.typeName name
  | .type t =>
    let isMember := match t with
      | .record i => (c.record i).slots.any (·.1 == name)
      | _ => false
    if isMember then .notCallable "_ctypes.CField" else .classHasNoAttribute (c.typeName t) name
  | .enumeration e => if e.members.any (·.1 == name) then .notCallable e.name else .noMember name
  | .member e _ _ => if e.members.any (·.1 == name) then .notCallable e.name else .noAttribute e.name name
  | .function _ => .noAttribute "ForeignFunction" name
  | .variable _ => .noAttribute "ForeignVariable" name
  | .routine _ _ => .noAttribute "function" name
  | .otherClass owner => .classHasNoAttribute owner name
  | .index _ => .noAttribute "ConstantIndex" name

abbrev Access := ExceptT AccessFault (StateM Registry)

namespace Access

def onZero {α : Type} (work : ZeroWork α) : Access α := do
  let (result, classes) := work.run (← get).classes
  modify fun r => { r with classes }
  match result with
  | .ok a => return a
  | .error f => throw (.zero f)

def bound (name : String) : Access Binding := do
  match (← get).names.get? name with
  | some b => return b
  | none => throw (.missing name)

def zeroShown (t : NativeType) : Access Instance := do
  let d ← onZero (ZeroWork.zeroOf t)
  onZero (ZeroWork.shown d)

/-- Calls the constructor of zero values that a name has. -/
def zero (name : String) : Access Instance := do
  let b ← bound name
  let c := (← get).classes
  match b with
  | .type (.record i) =>
    if (c.record i).hasZero then zeroShown (.record i) else throw (b.refusal c "zero")
  | _ => throw (b.refusal c "zero")

/-- The zeros of the members of the record that a name is bound to; nothing else has members. -/
def zeros (name : String) : Access Instance := do
  match ← bound name with
  | .type (.record i) =>
    let ds ← onZero (ZeroWork.zerosOf i)
    return .tuple (← ds.mapM fun d => onZero (ZeroWork.shown d))
  | _ => return .tuple []

def nativeType (t : TypeExpr) : Access (Option NativeType) := do
  let (result, r) := (Register.nativeType t).run (← get)
  modify fun _ => r
  match result with
  | .ok n => return n
  | .error f => throw (.registration f)

/-- The zero value of a C type. -/
def zeroOf (t : TypeExpr) : Access Instance := do
  match ← nativeType t with
  | some n => zeroShown n
  | none => throw (.zero .void)

/-- The names of the constants that have a value, by the index that was bound last. -/
def constantNames (v : Value) : Access (List String) := do
  match (← get).names.get? constantIndexName with
  | none | some (.value .none) => return []
  | some (.index i) => return i.names v
  | some b => throw (b.refusal (← get).classes "names")

end Access

end CBindings
