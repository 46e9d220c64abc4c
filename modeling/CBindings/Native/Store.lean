import CBindings.Native.Class
import CBindings.Native.Memory
import CBindings.Number.Encoding
import CBindings.Value

/-! Putting values into native memory and reading them back. -/
namespace CBindings

/-- A value on its way into memory: a scalar, or an object with a type and memory of its own. -/
inductive Datum where
  | scalar (v : Value)
  | object (t : NativeType) (m : Memory)
deriving Repr

/-- What is read from memory. Pointers only show that they are there. -/
inductive Instance where
  | scalar (v : Value)
  | record (members : List (String × Instance))
  | array (elements : List Instance)
  | tuple (elements : List Instance)
  | pointer
  /-- A part that does not lie inside the object, and what it shows as long as nothing is around the object. -/
  | outside (shown : Instance)
deriving Repr, Inhabited

inductive AttributeFault where
  | notCallable (typeName : String)
  | missing (typeName name : String)
deriving DecidableEq, Repr

def AttributeFault.message : AttributeFault → String
  | .notCallable typeName => "'" ++ Text.clip 200 typeName ++ "' object is not callable"
  | .missing typeName name => "'" ++ Text.clip 100 typeName ++ "' object has no attribute '" ++ name ++ "'"

inductive StoreFault where
  | notInteger (got : String)
  | notReal (got : String)
  | integerTooLarge
  | notOneByte
  | notOneCharacter
  | notText (got : String)
  | notBytes (got : String)
  | bytesTooLong (size limit : Nat)
  | textTooLong (size limit : Nat)
  | notAddress (got : String)
  | notPointer
  | expected (wanted got : String)
  | incompatible (got wanted : String)
deriving DecidableEq, Repr

def StoreFault.message : StoreFault → String
  | .notInteger got => "'" ++ got ++ "' object cannot be interpreted as an integer"
  | .notReal got => "must be real number, not " ++ got
  | .integerTooLarge => "int too large to convert to float"
  | .notOneByte => "one character bytes, bytearray or integer expected"
  | .notOneCharacter => "one character unicode string expected"
  | .notText got => "unicode string expected instead of " ++ got ++ " instance"
  | .notBytes got => "expected bytes, " ++ got ++ " found"
  | .bytesTooLong size limit =>
    "bytes too long (" ++ size.repr ++ ", maximum length " ++ limit.repr ++ ")"
  | .textTooLong size limit =>
    "string too long (" ++ size.repr ++ ", maximum length " ++ limit.repr ++ ")"
  | .notAddress got => "bytes or integer address expected instead of " ++ got ++ " instance"
  | .notPointer => "cannot be converted to pointer"
  | .expected wanted got => "expected " ++ wanted ++ " instance, got " ++ got
  | .incompatible got wanted => "incompatible types, " ++ got ++ " instance instead of " ++ wanted ++ " instance"

namespace Value

def typeName : Value → String
  | none => "NoneType"
  | bool _ => "bool"
  | int _ => "int"
  | float _ => "float"
  | text _ | points _ => "str"
  | bytes _ => "bytes"
  | tuple _ => "tuple"

def isTrue : Value → Bool
  | none => false
  | bool b => b
  | int n => n != 0
  | float x => !x.isZero
  | text s => !s.isEmpty
  | points codes => !codes.isEmpty
  | bytes b => !b.isEmpty
  | tuple _ => true

def integer : Value → Except StoreFault Int
  | int n => .ok n
  | bool b => .ok (if b then 1 else 0)
  | v => .error (.notInteger v.typeName)

def real : Value → Except StoreFault Binary64
  | float x => .ok x
  | bool b => .ok (.ofInt (if b then 1 else 0))
  | int n =>
    match Binary64.ofInt n with
    | .infinite _ => .error .integerTooLarge
    | x => .ok x
  | v => .error (.notReal v.typeName)

/-- The code of one character, given as a byte or as its number. -/
def byteCode : Value → Except StoreFault Nat
  | bytes [b] => .ok b.toNat
  | int n => if 0 ≤ n ∧ n < 256 then .ok n.toNat else .error .notOneByte
  | bool b => .ok (if b then 1 else 0)
  | _ => .error .notOneByte

def characterCode (v : Value) : Except StoreFault Nat :=
  match v.codes? with
  | some [code] => .ok code
  | some _ => .error .notOneCharacter
  | Option.none => .error (.notText v.typeName)

end Value

def Datum.typeName (c : Classes) : Datum → String
  | .scalar v => v.typeName
  | .object t _ => c.typeName t

/-- An integer as an unsigned one of so many bits; what does not fit is cut off. -/
def wrapTo (bits : Nat) (n : Int) : Nat := (n % (Nat.pow 2 bits : Nat)).toNat

def signedFrom (bits n : Nat) : Int := if Nat.pow 2 (bits - 1) ≤ n then (n : Int) - Nat.pow 2 bits else n

namespace Memory

def storeInteger (m : Memory) (offset size : Nat) (bits : Option (Nat × Nat)) (n : Int) : Memory :=
  match bits with
  | none => m.write offset size (wrapTo (8 * size) n)
  | some (shift, width) =>
    let old := m.read offset size
    let kept := old - (old >>> shift % Nat.pow 2 width) <<< shift
    m.write offset size (kept + wrapTo width n <<< shift)

def storeSimple (m : Memory) (s : Simple) (offset : Nat) (bits : Option (Nat × Nat)) (v : Value) :
    Except StoreFault Memory :=
  match s with
  | .bool => .ok (m.write offset 1 (if v.isTrue then 1 else 0))
  | .char => do return m.write offset 1 (← v.byteCode)
  | .wideChar => do return m.write offset 4 (← v.characterCode)
  | .float => do return m.write offset 4 (← v.real).toBits32
  | .double => do return m.write offset 8 (← v.real).toBits
  | .longDouble => do return m.write offset 16 (← v.real).toBits80
  | .charPointer =>
    match v with
    | .none => .ok (m.write offset 8 0)
    | .int n => .ok (m.write offset 8 (wrapTo 64 n))
    | .bool b => .ok (m.write offset 8 (if b then 1 else 0))
    | .bytes b => let (m, address) := m.keep b; .ok (m.write offset 8 address)
    | v => .error (.notAddress v.typeName)
  | .voidPointer =>
    match v with
    | .none => .ok (m.write offset 8 0)
    | .int n => .ok (m.write offset 8 (wrapTo 64 n))
    | .bool b => .ok (m.write offset 8 (if b then 1 else 0))
    | _ => .error .notPointer
  | s => do return m.storeInteger offset s.size bits (← v.integer)

/-- A text up to its first NUL, with one NUL after it if there is room. -/
def storeBytes (c : Classes) (m : Memory) (offset length : Nat) (d : Datum) : Except StoreFault Memory :=
  match d with
  | .scalar (.bytes b) =>
    let text := b.takeWhile (· != 0)
    if length < text.length then .error (.bytesTooLong text.length length)
    else
      let written := if text.length < length then text ++ [0] else text
      .ok (m.write offset written.length (ofBytes written))
  | d => .error (.notBytes (d.typeName c))

def storeText (c : Classes) (m : Memory) (offset length : Nat) (d : Datum) : Except StoreFault Memory :=
  let codes? := match d with
    | .scalar v => v.codes?
    | .object _ _ => none
  match codes? with
  | some codes =>
    if length < codes.length then .error (.textTooLong codes.length length)
    else
      let written := if codes.length < length then codes ++ [0] else codes
      .ok (m.write offset (4 * written.length) (written.foldr (fun x n => x + Nat.pow 2 32 * n) 0))
  | none => .error (.notText (d.typeName c))

/-- Puts a value at an offset, as a member or variable of that type takes it. -/
def store (c : Classes) (m : Memory) (t : NativeType) (offset : Nat) (bits : Option (Nat × Nat)) (d : Datum) :
    Except StoreFault Memory :=
  match t with
  | .simple s =>
    match d with
    | .scalar v => m.storeSimple s offset bits v
    | .object u _ => .error (.incompatible (c.typeName u) s.name)
  | .array (.simple .char) n => m.storeBytes c offset n d
  | .array (.simple .wideChar) n => m.storeText c offset n d
  | t =>
    match d, t with
    | .scalar .none, .pointer _ => .ok (m.write offset 8 0)
    | .scalar v, _ => .error (.expected (c.typeName t) v.typeName)
    | .object u content, _ =>
      if u.same t then .ok (m.write offset (c.layout t).1 content.content)
      else match u, t with
        | .array e _, .pointer target =>
          if e.same target then .ok (m.write offset 8 (Nat.pow 2 32))
          else .error (.incompatible (c.typeName u) (c.typeName t))
        | _, _ => .error (.incompatible (c.typeName u) (c.typeName t))

def readSimple (m : Memory) (s : Simple) (offset : Nat) (bits : Option (Nat × Nat)) : Value :=
  let word := m.read offset s.size
  match s with
  | .bool => .bool (word != 0)
  | .char => .bytes [word.toUInt8]
  | .wideChar => .ofPoints [word]
  | .float => .float (.ofBits32 word)
  | .double => .float (.ofBits word)
  | .longDouble => .float (.ofBits80 (m.read offset 10))
  | .charPointer => if word = 0 then .none else .bytes (m.textAt word)
  | .voidPointer => if word = 0 then .none else .int word
  | s =>
    let (width, n) := match bits with
      | none => (8 * s.size, word)
      | some (shift, width) => (width, word >>> shift % Nat.pow 2 width)
    .int (if s.isSigned then signedFrom width n else n)

/-- Arrays of characters read as texts, up to the first zero. -/
def textAt? (m : Memory) (t : NativeType) (offset : Nat) : Option Value :=
  match t with
  | .array (.simple .char) n => some (.bytes ((m.bytes offset n).takeWhile (· != 0)))
  | .array (.simple .wideChar) n =>
    let codes := (List.range n).map fun i => m.read (offset + 4 * i) 4
    some (.ofPoints (codes.takeWhile (· != 0)))
  | _ => none

/-- The name of the type of what a member shows. -/
def shownName (c : Classes) (m : Memory) (t : NativeType) (offset : Nat) (bits : Option (Nat × Nat)) : String :=
  match t with
  | .simple s => (m.readSimple s offset bits).typeName
  | .array (.simple .char) _ => (Value.bytes []).typeName
  | .array (.simple .wideChar) _ => (Value.text "").typeName
  | t => c.typeName t

end Memory

/-- Whether something of a type lies inside an object of so many bytes. -/
def Classes.lies (c : Classes) (size : Nat) (t : NativeType) (offset : Int) : Bool :=
  0 ≤ offset && offset + (c.layout t).1 ≤ size

namespace Memory

/-- What lies at an offset of an object of so many bytes. Members of a record that are arrays of characters are texts,
elements of an array are not. A member in the place of what finds members makes all of them unreachable. The fuel bounds
the records inside records. -/
def instanceAt (c : Classes) (m : Memory) (size : Nat) :
    Nat → NativeType → Int → Option (Nat × Nat) → Except AttributeFault Instance
  | 0, _, _, _ => .ok .pointer
  | fuel + 1, t, offset, bits => do
    let placed (t : NativeType) (offset : Int) (x : Instance) : Instance :=
      if c.lies size t offset then x else .outside x
    match t with
    | .simple s => return placed t offset (.scalar (m.readSimple s offset.toNat bits))
    | .pointer _ | .function _ _ => return placed t offset .pointer
    | .array e n =>
      let stride := (c.layout t).1 / n
      let elements ← (List.range n).mapM fun k => instanceAt c m size fuel e (offset + (stride * k : Nat)) none
      return placed t offset (.array elements)
    | .record i =>
      let r := c.record i
      if let some s := r.override? "__getattribute__" then
        throw (.notCallable (m.shownName c s.type (offset + s.offset).toNat s.bits))
      let members ← (r.fields.getD []).mapM fun f => do
        match r.slots.lookup f.name with
        | none => throw (.missing r.name f.name)
        | some s =>
          let place := offset + s.offset
          match m.textAt? s.type place.toNat with
          | some v => return (f.name, placed s.type place (.scalar v))
          | none => return (f.name, ← instanceAt c m size fuel s.type place s.bits)
      return placed t offset (.record members)

end Memory

namespace Classes

/-- More than the number of types on a way from a type through the members it holds by value. -/
def depthFrom (c : Classes) (t : NativeType) : Nat :=
  c.records.foldl (fun n r => (r.fields.getD []).foldl (fun n f => n + f.type.depth) (n + 1)) (t.depth + 1)

def instanceOf (c : Classes) (t : NativeType) (m : Memory) : Except AttributeFault Instance :=
  m.instanceAt c (c.layout t).1 (c.depthFrom t) t 0 none

end Classes

end CBindings
