import CBindings.Native.Type
import CBindings.Text.Utf8
import CBindings.TypeExpr

/-! Classes of native records: their members, laid out as C does, and when they can still be changed. -/
namespace CBindings

/-- Where a member lies. A bit-field starts `shift` bits into its unit. -/
structure Slot where
  type : NativeType
  offset : Int
  bits : Option (Nat × Nat) := none
  /-- The members of this record can be reached through the one that holds it. -/
  anonymous : Bool := false
deriving Repr

/-- A class without `fields` was only mentioned so far. The slots of its members are kept by name, so a member
that repeats a name takes its place. -/
structure RecordClass where
  name : String
  isUnion : Bool := false
  fields : Option (List (Field NativeType)) := none
  anonymous : List String := []
  slots : List (String × Slot) := []
  /-- How many members are laid out. -/
  length : Nat := 0
  size : Nat := 0
  align : Nat := 1
  /-- No field list can be set any more. -/
  isFinal : Bool := false
  /-- A field list was refused. -/
  failed : Bool := false
  /-- A constructor of zero values was set. -/
  hasZero : Bool := false
deriving Repr

/-- The member that stands for something that the class would do itself. A union goes on doing it. -/
def RecordClass.override? (r : RecordClass) (name : String) : Option Slot :=
  if r.isUnion then none else r.slots.lookup name

/-- An array keeps the size that its element had when the array was first mentioned. -/
structure ArrayClass where
  element : NativeType
  length : Nat
  size : Nat
  align : Nat
deriving Repr

structure Classes where
  records : List RecordClass := []
  arrays : List ArrayClass := []
deriving Repr

inductive ClassFault where
  | nameHoldsNul
  | final
  | fieldShape
  | bitsNotAllowed (typeName : String)
  | bitsInvalid
  | containsItself
  | noAttribute (typeName name : String)
  | notAMember (name : String)
  | reserved (typeName name : String)
  | anonymousTaken
  | negativeLength (n : Int)
  | lengthTooLarge
  | arrayTooLarge
  | tooManyArguments (count : Nat)
deriving DecidableEq, Repr

/-- A function is called with no more arguments than these. -/
def argumentLimit : Nat := 1024

/-- Names that each class uses for itself and lets no member take. -/
def reservedNames : List String :=
  ["__base__", "__basicsize__", "__dictoffset__", "__flags__", "__itemsize__", "__mro__", "__weakrefoffset__",
   "__dict__", "__text_signature__", "__name__", "__qualname__", "__bases__", "__class__", "_fields_"]

/-- How a class says that a name is its own. -/
def reservedText (typeName name : String) : String :=
  if name == "__dict__" || name == "__text_signature__" then
    "attribute '" ++ name ++ "' of 'type' objects is not writable"
  else if name == "__name__" || name == "__qualname__" then
    "can only assign string to " ++ typeName ++ "." ++ name ++ ", not '_ctypes.CField'"
  else if name == "__bases__" then "can only assign tuple to " ++ typeName ++ ".__bases__, not _ctypes.CField"
  else if name == "__class__" then "__class__ must be set to a class, not '_ctypes.CField' object"
  else if name == "_fields_" then "'_fields_' must be a sequence of pairs"
  else "readonly attribute"

def ClassFault.message : ClassFault → String
  | .nameHoldsNul => "type name must not contain null characters"
  | .final => "_fields_ is final"
  | .fieldShape => "_fields_ must be a sequence of pairs"
  | .bitsNotAllowed typeName => "bit fields not allowed for type " ++ typeName
  | .bitsInvalid => "number of bits invalid for bit field"
  | .containsItself => "Structure or union cannot contain itself"
  | .noAttribute typeName name => "type object '" ++ Text.clip 50 typeName ++ "' has no attribute '" ++ name ++ "'"
  | .notAMember name => "'" ++ name ++ "' is specified in _anonymous_ but not in _fields_"
  | .reserved typeName name => reservedText typeName name
  | .anonymousTaken => "_anonymous_ must be a sequence"
  | .negativeLength n => "Array length must be >= 0, not " ++ toString n
  | .lengthTooLarge => "cannot fit 'int' into an index-sized integer"
  | .arrayTooLarge => "array too large"
  | .tooManyArguments count =>
    "_argtypes_ has too many arguments (" ++ count.repr ++ "), maximum is " ++ argumentLimit.repr

namespace Classes

def record (c : Classes) (i : Nat) : RecordClass := (c.records[i]?).getD { name := "" }

def update (c : Classes) (i : Nat) (f : RecordClass → RecordClass) : Classes :=
  { c with records := c.records.modify i f }

def typeName (c : Classes) : NativeType → String
  | .simple s => s.name
  | .pointer t => "LP_" ++ c.typeName t
  | .array t n => String.ofList ((c.typeName t).toList.take 200) ++ "_Array_" ++ n.repr
  | .function _ _ => "CFunctionType"
  | .record i => (c.record i).name

def arrayOf? (c : Classes) (element : NativeType) (length : Nat) : Option ArrayClass :=
  c.arrays.find? fun a => a.length == length && a.element.same element

/-- Size and alignment. -/
def layout (c : Classes) : NativeType → Nat × Nat
  | .simple s => (s.size, s.size)
  | .pointer _ | .function _ _ => (8, 8)
  | .array t n =>
    match c.arrayOf? t n with
    | some a => (a.size, a.align)
    | none => let (size, align) := c.layout t; (size * n, align)
  | .record i => ((c.record i).size, (c.record i).align)

def markFinal (c : Classes) : NativeType → Classes
  | .record i => c.update i fun r => { r with isFinal := true }
  | _ => c

end Classes

def roundUp (n align : Nat) : Nat := (n + align - 1) / align * align

/-- The end of what is laid out so far, and the unit of bit-fields that is still open: its bits, and how many
of them are used. -/
structure LayoutEnd where
  offset : Nat := 0
  unit : Nat := 0
  used : Nat := 0
deriving Repr

/-- Places a member of a size and alignment: where it starts, and at which bit. A bit-field goes on in the
open unit if it fits, widens the unit if its type is wider and has room, and else opens a new unit. -/
def LayoutEnd.place (l : LayoutEnd) (size align : Nat) (width : Option Nat) : (Int × Nat) × LayoutEnd :=
  let start := roundUp l.offset align
  match width with
  | none => ((start, 0), ⟨start + size, 0, 0⟩)
  | some w =>
    if l.unit ≠ 0 ∧ size * 8 ≤ l.unit ∧ l.used + w ≤ l.unit then
      (((l.offset : Int) - size, l.used), { l with used := l.used + w })
    else if l.unit ≠ 0 ∧ l.unit ≤ size * 8 ∧ l.used + w ≤ size * 8 then
      let offset := l.offset + (size - l.unit / 8)
      (((offset : Int) - size, l.used), ⟨offset, size * 8, l.used + w⟩)
    else ((start, 0), ⟨start + size, size * 8, w⟩)

abbrev ClassWork := ExceptT ClassFault (StateM Classes)

namespace ClassWork

/-- A new class; its place in the table. -/
def declare (name : String) (isUnion : Bool) : ClassWork Nat := do
  if name.toList.contains '\x00' then throw .nameHoldsNul
  let c ← get
  modify fun c => { c with records := c.records ++ [{ name, isUnion }] }
  return c.records.length

def indexLimit : Int := 0x8000000000000000

def array (element : NativeType) (length : Int) : ClassWork NativeType := do
  if length ≥ indexLimit || length < -indexLimit then throw .lengthTooLarge
  if length < 0 then throw (.negativeLength length)
  let n := length.toNat
  let c ← get
  if (c.arrayOf? element n).isNone then
    let (size, align) := c.layout element
    if (size * n : Int) ≥ indexLimit then throw .arrayTooLarge
    modify fun c => { c with arrays := c.arrays ++ [⟨element, n, size * n, align⟩] }
  return .array element n

def putSlot (slots : List (String × Slot)) (name : String) (s : Slot) : List (String × Slot) :=
  if slots.any (·.1 == name) then slots.map fun e => if e.1 == name then (name, s) else e
  else slots ++ [(name, s)]

def setSlot (i : Nat) (name : String) (s : Slot) : ClassWork Unit :=
  modify fun c => c.update i fun r => { r with slots := putSlot r.slots name s }

/-- The width of a bit-field, checked against its type. -/
def checkWidth (f : Field NativeType) : ClassWork (Option Nat) := do
  match f.width with
  | none => return none
  | some w =>
    let c ← get
    match f.type with
    | .simple s =>
      if !s.allowsBits then throw (.bitsNotAllowed s.name)
      if w ≤ 0 || w > 8 * s.size then throw .bitsInvalid
      return some w.toNat
    | t => throw (.bitsNotAllowed (c.typeName t))

/-- Running totals of a layout: alignment and, for a union, the largest member. -/
structure Totals where
  stop : LayoutEnd := {}
  align : Nat := 1
  largest : Nat := 0

def placeMember (i : Nat) (isUnion : Bool) (t : Totals) (f : Field NativeType) : ClassWork Totals := do
  if f.width.any fun w => w < -0x80000000 || w ≥ 0x80000000 then throw .fieldShape
  modify (·.markFinal f.type)
  let width ← checkWidth f
  let (size, align) := (← get).layout f.type
  let start : LayoutEnd := if isUnion then { t.stop with offset := 0 } else t.stop
  let ((offset, shift), stop) := start.place size align width
  if reservedNames.contains f.name then throw (.reserved ((← get).record i).name f.name)
  setSlot i f.name { type := f.type, offset, bits := width.map fun w => (shift, w) }
  return { stop, align := max align t.align, largest := max stop.offset t.largest }

def placeMembers (i : Nat) (isUnion : Bool) : Totals → List (Field NativeType) → ClassWork Totals
  | t, [] => return t
  | t, f :: rest => do placeMembers i isUnion (← placeMember i isUnion t f) rest

/-- The field list of a record type, as far as it has one. -/
def fieldsOf (t : NativeType) : ClassWork (Nat × List (Field NativeType)) := do
  let c ← get
  match t with
  | .record j =>
    match (c.record j).fields with
    | some fields => return (j, fields)
    | none => throw (.noAttribute (c.typeName t) "_fields_")
  | _ => throw (.noAttribute (c.typeName t) "_fields_")

/-- Makes the members of a nested record members of the class `i`, through further nested ones. -/
def promote (i : Nat) : Nat → NativeType → Int → ClassWork Unit
  | 0, _, _ => return
  | fuel + 1, t, offset => do
    let (j, fields) ← fieldsOf t
    for f in fields do
      match ((← get).record j).slots.lookup f.name with
      | none => throw (.noAttribute ((← get).record j).name f.name)
      | some s =>
        if s.anonymous then promote i fuel s.type (offset + s.offset)
        else setSlot i f.name { s with offset := offset + s.offset }

def promoteAll (i : Nat) : List String → ClassWork Unit
  | [] => return
  | name :: rest => do
    let c ← get
    match (c.record i).slots.lookup name with
    | none =>
      if name == "_fields_" || name == "_anonymous_" then throw (.notAMember name)
      else throw (.noAttribute (c.record i).name name)
    | some s =>
      setSlot i name { s with anonymous := true }
      promote i (c.records.length + 1) s.type s.offset
      promoteAll i rest

/-- Lays the members of a class out. A record that has itself as a member became final on the way, and one with a member
in the place of the list of its nameless members has lost that list. -/
def layOut (i : Nat) (fields : List (Field NativeType)) : ClassWork Unit := do
  let r := (← get).record i
  if r.isFinal then throw .final
  let t ← placeMembers i r.isUnion {} fields
  let size := roundUp (if r.isUnion then t.largest else t.stop.offset) t.align
  modify fun c => c.update i fun r => { r with size, align := t.align, length := fields.length }
  if ((← get).record i).isFinal then throw .containsItself
  modify fun c => c.update i fun r => { r with isFinal := true }
  if fields.any (·.name == "_anonymous_") then throw .anonymousTaken
  promoteAll i ((← get).record i).anonymous

/-- Sets the field list of a class. The list stays even if it is refused. -/
def setFields (i : Nat) (fields : List (Field NativeType)) (anonymous : List String) : ClassWork Unit := do
  modify fun c => c.update i fun r =>
    { r with fields := some fields, anonymous := if anonymous.isEmpty then r.anonymous else anonymous }
  tryCatch (layOut i fields) fun f => do
    modify fun c => c.update i fun r => { r with failed := true }
    throw f

end ClassWork

end CBindings
