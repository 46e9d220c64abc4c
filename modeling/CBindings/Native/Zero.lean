import CBindings.Native.Store

/-! Zero values of native types. -/
namespace CBindings

inductive ZeroFault where
  | tooManyInitializers
  | store (f : StoreFault)
  | attribute (f : AttributeFault)
  | void
  | noZero (className : String)
  | endless
deriving DecidableEq, Repr

def ZeroFault.message : ZeroFault → String
  | .tooManyInitializers => "too many initializers"
  | .store f => f.message
  | .attribute f => f.message
  | .void => "issubclass() arg 1 must be a class"
  | .noZero className => "No zero value for <class '" ++ className ++ "'>"
  | .endless => "maximum recursion depth exceeded"

abbrev ZeroWork := ExceptT ZeroFault (StateM Classes)

namespace ZeroWork

def zeroScalar (s : Simple) : Value := ({} : Memory).readSimple s 0 none

/-- Sets the members of a new object in order, each through the slot that its name has. What lies before the object is
no part of it. -/
def fillMembers (r : RecordClass) (c : Classes) : Memory → List (Field NativeType × Datum) → Except StoreFault Memory
  | m, [] => .ok m
  | m, (f, d) :: rest =>
    match r.slots.lookup f.name with
    | none => fillMembers r c m rest
    | some s => do
      let stored ← m.store c s.type s.offset.toNat s.bits d
      fillMembers r c (if 0 ≤ s.offset then stored else m) rest

/-- A new object with values for its members. A member in the place of what fills an object, or sets its members, is no
function. -/
def fill (c : Classes) (i : Nat) (values : List Datum) : Except ZeroFault Memory :=
  let r := c.record i
  match (r.override? "__init__").or (r.override? "__setattr__") with
  | some s => .error (.attribute (.notCallable (({} : Memory).shownName c s.type s.offset.toNat s.bits)))
  | none =>
    match fillMembers r c {} (((r.fields.getD []).take r.length).zip values) with
    | .error f => .error (.store f)
    | .ok m =>
      let taken := if r.fields.isSome then r.length else 0
      if taken < values.length then .error .tooManyInitializers else .ok m

/-- Makes an object of a record class, which is final from then on. -/
def construct (i : Nat) (values : List Datum) : ZeroWork Memory := do
  if (((← get).record i).override? "__new__").isSome then throw (.attribute (.notCallable "_ctypes.CField"))
  modify (·.markFinal (.record i))
  match fill (← get) i values with
  | .error f => throw f
  | .ok m => return m

mutual
/-- Simple types have a zero of their own, texts are empty, pointers lead nowhere, and records are made from
the zeros of their members. -/
def zero : Nat → NativeType → ZeroWork Datum
  | 0, _ => throw .endless
  | _ + 1, .simple s => return .scalar (zeroScalar s)
  | _ + 1, .array (.simple .char) _ => return .scalar (.bytes [])
  | _ + 1, .array (.simple .wideChar) _ => return .scalar (.text "")
  | fuel + 1, .record i => do
    let fields := ((← get).record i).fields.getD []
    let values ← zeros fuel fields
    return .object (.record i) (← construct i values)
  | _ + 1, t => return .object t {}

def zeros : Nat → List (Field NativeType) → ZeroWork (List Datum)
  | _, [] => return []
  | 0, _ => throw .endless
  | fuel + 1, f :: rest => do
    let d ← zero fuel f.type
    return d :: (← zeros fuel rest)
end

/-- Reading an element of an array makes an object of it. -/
def markRead (c : Classes) : Nat → NativeType → Classes
  | 0, _ => c
  | fuel + 1, .array t n =>
    if n = 0 then c
    else match t with
      | .simple _ => c
      | t => markRead (c.markFinal t) fuel t
  | fuel + 1, .record i => ((c.record i).fields.getD []).foldl (fun c f => markRead c fuel f.type) c
  | _ + 1, _ => c

/-- How a value is shown. -/
def shown (d : Datum) : ZeroWork Instance := do
  match d with
  | .scalar v => return .scalar v
  | .object t m =>
    modify fun c => markRead c (c.depthFrom t) t
    match (← get).instanceOf t m with
    | .ok x => return x
    | .error f => throw (.attribute f)

/-- The sum bounds every way from type to member: each member of each class is passed at most once. -/
def fuelFor (c : Classes) (t : NativeType) : Nat :=
  c.records.foldl (fun n r => n + (r.fields.getD []).length + 2) (2 * c.depthFrom t)

def zeroOf (t : NativeType) : ZeroWork Datum := do zero (fuelFor (← get) t) t

/-- The zeros of the members of a record class. -/
def zerosOf (i : Nat) : ZeroWork (List Datum) := do
  let c ← get
  zeros (fuelFor c (.record i)) ((c.record i).fields.getD [])

end ZeroWork

end CBindings
