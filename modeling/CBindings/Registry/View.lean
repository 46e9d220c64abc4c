import CBindings.Registry.Basic

/-! What can be seen of the types in a namespace. A record is only named where it can be looked up, and written
out where it stands otherwise. -/
namespace CBindings

/-- How a record that is only named is known. -/
inductive Standing where
  | bound
  | pending
  | failed
  /-- It is being written out around this place. -/
  | enclosing
deriving DecidableEq, Repr

structure MemberView (τ : Type) where
  name : String
  type : τ
  width : Option Int
  offset : Option Int
deriving Repr

/-- `layout` is size and alignment. It and the offsets are left out if there are bit-fields. -/
structure RecordView (τ : Type) where
  name : String
  isUnion : Bool
  fields : Option (List (MemberView τ))
  layout : Option (Nat × Nat)
  anonymous : List String
  hasZero : Bool
deriving Repr

inductive TypeView where
  | void
  | simple (s : Simple)
  | pointer (target : TypeView)
  | array (element : TypeView) (length : Nat)
  | function (result : TypeView) (arguments : List TypeView)
  | mention (name : String) (isUnion : Bool) (standing : Standing)
  | record (r : RecordView TypeView)

mutual
def NativeType.view (record : Nat → TypeView) : NativeType → TypeView
  | .simple s => .simple s
  | .pointer t => .pointer (t.view record)
  | .array t n => .array (t.view record) n
  | .function none arguments => .function .void (viewTypes record arguments)
  | .function (some t) arguments => .function (t.view record) (viewTypes record arguments)
  | .record i => record i

def viewTypes (record : Nat → TypeView) : List NativeType → List TypeView
  | [] => []
  | t :: rest => t.view record :: viewTypes record rest
end

/-- Whether a type holds records that satisfy `p`, as themselves and not behind pointers. -/
def NativeType.holds (p : Nat → Bool) : NativeType → Bool
  | .array t _ => t.holds p
  | .record i => p i
  | _ => false

/-- Whether there are bit-fields in a record, or in records inside it; the fuel bounds their nesting. -/
def Classes.hasBits (c : Classes) : Nat → Nat → Bool
  | 0, _ => false
  | fuel + 1, i => ((c.record i).fields.getD []).any fun f => f.width.isSome || f.type.holds (c.hasBits fuel)

namespace Registry

/-- How a record is known, if it can be looked up or cannot be written out. -/
def standing? (r : Registry) (enclosing : List Nat) (i : Nat) : Option Standing :=
  let isBound := match r.names.get? (r.classes.record i).name with
    | some (.type (.record k)) => k == i
    | _ => false
  if isBound then some .bound
  else if r.pending.any (·.2 == i) then some .pending
  else if (r.classes.record i).failed then some .failed
  else if enclosing.contains i then some .enclosing
  else none

def writeOut (r : Registry) (inner : Nat → TypeView) (i : Nat) : RecordView TypeView :=
  let c := r.classes.record i
  let bits := r.classes.hasBits (r.classes.records.length + 1) i
  let member (f : Field NativeType) : MemberView TypeView :=
    { name := f.name, type := f.type.view inner, width := f.width,
      offset := if bits then none else (c.slots.lookup f.name).map (·.offset) }
  { name := c.name, isUnion := c.isUnion, fields := c.fields.map (·.map member),
    layout := if bits || c.fields.isNone then none else some (c.size, c.align),
    anonymous := c.anonymous, hasZero := c.hasZero }

/-- A record inside others. Each level has one more record around it, so the fuel need not exceed their number. -/
def recordView (r : Registry) : Nat → List Nat → Nat → TypeView
  | 0, _, _ => .void
  | fuel + 1, enclosing, i =>
    match r.standing? enclosing i with
    | some s => .mention (r.classes.record i).name (r.classes.record i).isUnion s
    | none => .record (r.writeOut (r.recordView fuel (i :: enclosing)) i)

def recordFuel (r : Registry) : Nat := r.classes.records.length + 2

def typeView (r : Registry) : Option NativeType → TypeView
  | none => .void
  | some t => t.view (r.recordView r.recordFuel [])

/-- The type that a name is bound to. A record under its own name is written out there. -/
def boundView (r : Registry) (name : String) (t : NativeType) : TypeView × Bool :=
  match t with
  | .record i =>
    if (r.classes.record i).name == name then (.record (r.writeOut (r.recordView r.recordFuel [i]) i), true)
    else (r.typeView (some t), false)
  | t => (r.typeView (some t), false)

end Registry

end CBindings
