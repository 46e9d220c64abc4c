import CBindings.Native.Type
import CBindings.Registry.ConstantIndex
import CBindings.Registry.EnumClass
import CBindings.Registry.Signature

/-! What names of a namespace stand for. -/
namespace CBindings

/-- A function of a native library; without one, of the running process. -/
structure ForeignFunction where
  name : String
  library : Option String
  result : Option NativeType
  arguments : List NativeType
  variadic : Bool
  argumentNames : List String
deriving Repr

structure ForeignVariable where
  name : String
  library : Option String
  type : NativeType
deriving Repr

namespace ForeignFunction

/-- Names for so many arguments, made up where none is given. -/
def namesFor (count : Nat) (given : List String) : List String :=
  (List.range count).map fun i =>
    match given[i]? with
    | some n => if n.isEmpty then "arg" ++ i.repr else n
    | none => "arg" ++ i.repr

def make (name : String) (library : Option String) (result : Option NativeType) (arguments : List NativeType)
    (variadic : Bool) (given : List String) : ForeignFunction :=
  { name, library, result, arguments, variadic, argumentNames := namesFor arguments.length given }

def signature (f : ForeignFunction) : Except SignatureFault Signature := Signature.ofNames f.argumentNames f.variadic

def text (f : ForeignFunction) : String :=
  let place := match f.library with
    | some l => if l.isEmpty then "process" else l
    | none => "process"
  "<ForeignFunction " ++ f.name ++ " from " ++ place ++ ">"

end ForeignFunction

def ForeignVariable.text (v : ForeignVariable) : String := "<ForeignVariable " ++ v.name ++ ">"

/-- `member` is a member of an enumeration; `routine` is a function of the surrounding program, and
`otherClass` one of its classes that is no native type. -/
inductive Binding where
  | value (v : Value)
  | type (t : NativeType)
  | enumeration (e : EnumClass)
  | member (enumeration : EnumClass) (name : String) (value : Int)
  | function (f : ForeignFunction)
  | variable (v : ForeignVariable)
  | routine (name : String) (signature : Option Signature)
  | otherClass (name : String)
  | index (i : ConstantIndex)
deriving Repr

namespace Binding

/-- A signature that cannot be read accepts nothing. -/
def accepts (arity : Int) : Binding → Bool
  | .function f =>
    match f.signature with
    | .ok s => s.accepts arity
    | .error _ => false
  | .routine _ (some s) => s.accepts arity
  | _ => false

def isFunction : Binding → Bool
  | .function _ | .routine _ _ => true
  | .member e _ _ => e.looksLikeMethod
  | _ => false

/-- What is missed when the signature of something is asked for. -/
def missed? : Binding → Option String
  | .member e _ _ => e.missed?
  | _ => none

/-- Whether a function with so many parameters is passed over because of what its name is bound to. It is not where
that is a function which does not accept as many arguments; an error tells what was missed in finding out. -/
def staysFor (arity : Int) (b : Binding) : Except String Bool :=
  if !b.isFunction then .ok true
  else match b.missed? with
    | some name => .error name
    | none => .ok (b.accepts arity)

/-- Whether it is equal to an integer. A member of an enumeration with a comparison of its own cannot be compared,
since the comparison is a number. -/
def equals? (n : Int) : Binding → Option Bool
  | .value v => some (v.toInt? == some n)
  | .member e _ m => if e.has "__eq__" then none else some (m == n)
  | _ => some false

end Binding

/-- Names in the order in which they were bound. -/
abbrev Namespace := List (String × Binding)

namespace Namespace

def get? (ns : Namespace) (name : String) : Option Binding := ns.lookup name

def has (ns : Namespace) (name : String) : Bool := (ns.get? name).isSome

/-- Binds a name; one that is bound already keeps its place. -/
def insert (ns : Namespace) (name : String) (b : Binding) : Namespace :=
  if ns.has name then ns.map fun e => if e.1 == name then (name, b) else e else ns ++ [(name, b)]

def erase (ns : Namespace) (name : String) : Namespace := ns.filter (·.1 != name)

end Namespace

/-- Where the index of constants is bound. -/
def constantIndexName : String := "__cinclude_constants__"

end CBindings
