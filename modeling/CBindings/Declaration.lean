import CBindings.TypeExpr
import CBindings.Value

/-! Declarations: what is extracted from headers and registered. -/
namespace CBindings

structure Constant where
  name : String
  value : Value
  kind : ConstantKind := .integer
  isMacro : Bool := true
  probed : Bool := false
  location : Option Location := none
deriving DecidableEq, Repr

structure Enumerator where
  name : String
  value : Int
deriving DecidableEq, Repr

structure Enumeration where
  name : String
  values : List Enumerator := []
  underlying : TypeExpr := .named "unsigned int" [] none
  location : Option Location := none
deriving Repr

/-- A function of a library; without one, of the running process. -/
structure Function where
  name : String
  result : TypeExpr
  parameters : List (Parameter TypeExpr) := []
  variadic : Bool := false
  library : Option String := none
  location : Option Location := none
deriving Repr

structure Alias where
  name : String
  target : TypeExpr
  location : Option Location := none
deriving Repr

structure Variable where
  name : String
  type : TypeExpr
  library : Option String := none
  location : Option Location := none
deriving Repr

/-- `constructor` makes the zero value of the record of that name; `info` is a message for the log;
`stray` is text that is no declaration. -/
inductive Declaration where
  | constant (c : Constant)
  | record (r : Record)
  | enumeration (e : Enumeration)
  | function (f : Function)
  | alias (a : Alias)
  | variable (v : Variable)
  | constructor (typeName : String)
  | info (message : String)
  | stray (text : String)
deriving Repr

def Enumerator.text (v : Enumerator) : String := v.name ++ " = " ++ toString v.value

/-- Adds `name` to the names that `key` has, at the end of the table if it has none yet. -/
def addName {κ : Type} [BEq κ] (key : κ) (name : String) : List (κ × List String) → List (κ × List String)
  | [] => [(key, [name])]
  | (k, names) :: rest => if k == key then (k, names ++ [name]) :: rest else (k, names) :: addName key name rest

/-- The enumerators by value, in the order of declaration. -/
def Enumeration.namesByValue (e : Enumeration) : List (Int × List String) :=
  e.values.foldl (fun table v => addName v.value v.name table) []

def Function.text (f : Function) : String :=
  let params := parameterList (parameterTexts f.parameters) f.variadic
  let place := match f.library with
    | some lib => if lib.isEmpty then "" else " [" ++ lib ++ "]"
    | none => ""
  f.result.text ++ " " ++ f.name ++ "(" ++ params ++ ")" ++ place

/-- What can go wrong when a declaration is named, shown or serialised. -/
inductive ShowFault where
  | notADeclaration (text : String)
  | namelessText
  | tooManyDigits
  | bytesInDocument
  | unserializable (message : String)
  | unstructured
deriving DecidableEq, Repr

def ShowFault.message : ShowFault → String
  | .notADeclaration text => "Not a declaration: " ++ Text.quote text
  | .namelessText => "'str' object has no attribute 'name'"
  | .tooManyDigits =>
    "Exceeds the limit (4300 digits) for integer string conversion; use sys.set_int_max_str_digits() to increase the limit"
  | .bytesInDocument => "Object of type bytes is not JSON serializable"
  | .unserializable message => message
  | .unstructured => "asdict() should be called on dataclass instances"

namespace Declaration

/-- The declaration on one line. -/
def text : Declaration → Except ShowFault String
  | .constant c =>
    match c.value.quoted? with
    | some v => .ok ("const " ++ c.name ++ " = " ++ v)
    | none => .error .tooManyDigits
  | .record r => .ok r.text
  | .enumeration e => .ok ("enum " ++ e.name)
  | .function f => .ok f.text
  | .alias a => .ok ("typedef " ++ a.target.text ++ " " ++ a.name)
  | .variable v => .ok ("extern " ++ v.type.text ++ " " ++ v.name)
  | .constructor n => .ok (n ++ ".zero()")
  | .info m => .ok ("# " ++ m)
  | .stray s => .ok s

def kind : Declaration → Except ShowFault String
  | .constant _ => .ok "constant"
  | .record r => .ok r.tag.text
  | .enumeration _ => .ok "enum"
  | .function _ => .ok "function"
  | .alias _ => .ok "typedef"
  | .variable _ => .ok "variable"
  | .constructor _ => .ok "constructor"
  | .info _ => .ok "info"
  | .stray s => .error (.notADeclaration s)

/-- The name that a declaration registers; a message has none. -/
def name? : Declaration → Except ShowFault (Option String)
  | .constant c => .ok c.name
  | .record r => .ok r.name
  | .enumeration e => .ok e.name
  | .function f => .ok f.name
  | .alias a => .ok a.name
  | .variable v => .ok v.name
  | .constructor n => .ok n
  | .info _ => .ok none
  | .stray _ => .error .namelessText

end Declaration

end CBindings
