import CBindings.Native.Store
import CBindings.Registry.Binding

/-! Symbols of native libraries. A library is loaded when one of its symbols is first needed, and only once
under each name; the process itself is a library without a name. -/
namespace CBindings

/-- What the system can find and load. -/
structure Loader where
  found : List (String × String) := []
  broken : List String := []
  symbols : List String := []

/-- Names of files are loaded as they are; other names are looked up without `lib` in front. -/
def Loader.path (l : Loader) : Option String → Option String
  | none => none
  | some name =>
    let cs := name.toList
    let isFile := cs.contains '/' || Text.occursIn ".so".toList cs
      || [".dylib", ".dll"].any fun s => s.toList.isSuffixOf cs
    if isFile then some name
    else
      let bare := if "lib".toList.isPrefixOf cs then String.ofList (cs.drop 3) else name
      match l.found.lookup bare with
      | some path => some (if path.isEmpty then name else path)
      | none => some name

inductive ForeignFault where
  | cannotOpen (path : String)
  | undefinedSymbol (name : String)
  | notBytes (got : String)
  | notText (got : String)
  | bytesTooLong
  | textTooLong
  | store (f : StoreFault)
  | attribute (f : AttributeFault)
deriving DecidableEq, Repr

def ForeignFault.message : ForeignFault → String
  | .cannotOpen path => path ++ ": cannot open shared object file"
  | .undefinedSymbol name => "undefined symbol: " ++ name
  | .notBytes got => "bytes expected instead of " ++ got ++ " instance"
  | .notText got => "unicode string expected instead of " ++ got ++ " instance"
  | .bytesTooLong => "byte string too long"
  | .textTooLong => "string too long"
  | .store f => f.message
  | .attribute f => f.message

/-- How a symbol is called. Without `arguments`, with anything. -/
structure SymbolType where
  result : Option NativeType
  arguments : Option (List NativeType) := none
deriving Repr

structure SymbolCall where
  library : Option String
  symbol : String
  values : List Value
deriving DecidableEq, Repr

/-- Libraries are known by the name that they were loaded under, memory by the path of its library. -/
structure ForeignState where
  libraries : List (Option String × Option String) := []
  types : List ((Option String × String) × SymbolType) := []
  memory : List ((Option String × String) × Memory) := []
  loads : List (Option String) := []
  calls : List SymbolCall := []

abbrev Foreign := ExceptT ForeignFault (StateM ForeignState)

namespace Foreign

/-- The path of a library, which is loaded if it has to be. What cannot be loaded is tried again next time. -/
def library (l : Loader) (name : Option String) : Foreign (Option String) := do
  match (← get).libraries.lookup name with
  | some path => return path
  | none =>
    let path := l.path name
    modify fun s => { s with loads := s.loads ++ [path] }
    match path with
    | some p => if l.broken.contains p then throw (.cannotOpen p)
    | none => pure ()
    modify fun s => { s with libraries := s.libraries ++ [(name, path)] }
    return path

def put {κ β : Type} [BEq κ] (table : List (κ × β)) (key : κ) (b : β) : List (κ × β) :=
  (key, b) :: table.filter (·.1 != key)

/-- Looks a function up and tells its symbol how it is called. -/
def resolve (l : Loader) (f : ForeignFunction) : Foreign Unit := do
  let _ ← library l f.library
  if !l.symbols.contains f.name then throw (.undefinedSymbol f.name)
  let key := (f.library, f.name)
  let earlier := ((← get).types.lookup key).bind (·.arguments)
  let arguments := if f.variadic then earlier else some f.arguments
  modify fun s => { s with types := put s.types key ⟨f.result, arguments⟩ }

/-- Calls a function, which is looked up first unless that was done before. -/
def call (l : Loader) (f : ForeignFunction) (isResolved : Bool) (values : List Value) : Foreign Unit := do
  if !isResolved then resolve l f
  let path ← library l f.library
  modify fun s => { s with calls := s.calls ++ [⟨path, f.name, values⟩] }

/-- How the symbol of a function is called now. -/
def symbolType (f : ForeignFunction) : Foreign SymbolType := do
  return ((← get).types.lookup (f.library, f.name)).getD ⟨none, none⟩

/-- Where the memory of a variable is. -/
def place (l : Loader) (v : ForeignVariable) : Foreign (Option String × String) := do
  return (← library l v.library, v.name)

def memoryAt (key : Option String × String) : Foreign Memory := do
  return ((← get).memory.lookup key).getD {}

/-- The member that stands for the whole record, if it has one of that name. -/
def valueSlot? (c : Classes) : NativeType → Option Slot
  | .record i => (c.record i).slots.lookup "value"
  | _ => none

/-- The value of a variable. -/
def read (l : Loader) (c : Classes) (v : ForeignVariable) : Foreign Instance := do
  let m ← memoryAt (← place l v)
  let (t, offset, bits) := match valueSlot? c v.type with
    | some s => (s.type, s.offset.toNat, s.bits)
    | none => (v.type, 0, none)
  match m.textAt? t offset with
  | some text => return .scalar text
  | none =>
    match m.instanceAt c (c.layout v.type).1 (c.depthFrom t) t offset bits with
    | .ok x => return x
    | .error f => throw (.attribute f)

/-- Texts are put into arrays of characters whole, with a NUL after them if there is room. -/
def storeWhole (c : Classes) (m : Memory) (t : NativeType) (d : Datum) : Except ForeignFault Memory :=
  match t, d with
  | .array (.simple .char) n, .scalar (.bytes b) =>
    if n < b.length then .error .bytesTooLong
    else
      let b := if b.length < n then b ++ [0] else b
      .ok (m.write 0 b.length (Memory.ofBytes b))
  | .array (.simple .char) _, d => .error (.notBytes (d.typeName c))
  | .array (.simple .wideChar) n, .scalar (.text s) =>
    if n < s.length then .error .textTooLong
    else (m.storeText c 0 n d).mapError .store
  | .array (.simple .wideChar) _, d => .error (.notText (d.typeName c))
  | t, d => (m.store c t 0 none d).mapError .store

/-- Sets a variable. -/
def write (l : Loader) (c : Classes) (v : ForeignVariable) (d : Datum) : Foreign Unit := do
  let key ← place l v
  let m ← memoryAt key
  let stored : Except ForeignFault Memory := match valueSlot? c v.type with
    | some s => (m.store c s.type s.offset.toNat s.bits d).mapError ForeignFault.store
    | none => storeWhole c m v.type d
  match stored with
  | .error f => throw f
  | .ok m => modify fun s => { s with memory := put s.memory key m }

end Foreign

end CBindings
