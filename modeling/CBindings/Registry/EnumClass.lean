import CBindings.Declaration
import CBindings.Text.Quoted

/-! Enumerations as classes of named integers. Some names cannot be members: names between single
underscores are reserved, and names between double ones, or private to the class, are passed over. The names between
double ones are attributes of the class all the same, and some of them say what its members can do. -/
namespace CBindings

/-- Members in order, those that repeat a value included, and the special names of the class. -/
structure EnumClass where
  name : String
  members : List (String × Int)
  attributes : List (String × Int) := []
deriving DecidableEq, Repr

inductive EnumFault where
  | repeated (name : String) (value : Int)
  | reserved (name : String)
  | invalid (names : List String)
  | notIterable
  | notCallable
  | notAName
  | notACell
  | valueNotSet
  | nameHoldsNul
  | noMember (name : String)
deriving DecidableEq, Repr

def EnumFault.message : EnumFault → String
  | .repeated name value => Text.quote name ++ " already defined as " ++ toString value
  | .reserved name => "_sunder_ names, such as " ++ Text.quote name ++ ", are reserved for future Enum use"
  | .invalid names => "invalid enum member name(s) " ++ Text.join "," (names.map Text.quote)
  | .notIterable => "'int' object is not iterable"
  | .notCallable => "'int' object is not callable"
  | .notAName => "type __qualname__ must be a str, not int"
  | .notACell => "__classcell__ must be a nonlocal cell, not <class 'int'>"
  | .valueNotSet => "_value_ not set in __new__, unable to create it"
  | .nameHoldsNul => "type name must not contain null characters"
  | .noMember name => Text.quote name

namespace EnumClass

def isPrivate (className name : List Char) : Bool :=
  let start := '_' :: className ++ ['_', '_']
  start.length < name.length && start.isPrefixOf name && !(['_', '_'].isSuffixOf name)

def isReserved (name : List Char) : Bool :=
  match name with
  | '_' :: c :: _ =>
    2 < name.length && c != '_' && name.getLast? == some '_' && name.dropLast.getLast? != some '_'
  | _ => false

def isSpecial (name : List Char) : Bool :=
  match name with
  | '_' :: '_' :: c :: _ =>
    4 < name.length && c != '_' && ['_', '_'].isSuffixOf name && (name.take (name.length - 2)).getLast? != some '_'
  | _ => false

/-- Reserved names that mean something, and so are not refused. -/
def meaningful : List String :=
  ["_order_", "_generate_next_value_", "_numeric_repr_", "_missing_", "_ignore_", "_iter_member_",
   "_iter_member_by_value_", "_iter_member_by_def_"]

def membersFrom (className : String) : List (String × Int) → List Enumerator → Except EnumFault (List (String × Int))
  | members, [] => .ok members
  | members, v :: rest =>
    let name := v.name.toList
    if isPrivate className.toList name then membersFrom className members rest
    else if isReserved name then
      if !meaningful.contains v.name then .error (.reserved v.name)
      else if v.name == "_ignore_" then .error .notIterable
      else membersFrom className members rest
    else if isSpecial name then membersFrom className members rest
    else match members.lookup v.name with
      | some earlier => .error (.repeated v.name earlier)
      | none => membersFrom className (members ++ [(v.name, v.value)]) rest

/-- Names that a class has of its own. -/
def forbidden : List String := ["", "mro"]

/-- The order of the members, as far as a number can give one. -/
def order (values : List Enumerator) : Int :=
  ((values.filter fun v => v.name == "_order_" || v.name == "__order__").getLast?.map (·.value)).getD 0

def declares (values : List Enumerator) (name : String) : Bool := values.any (·.name == name)

/-- Special names by which members are made, and that a number cannot stand for. -/
def checkMaking (values : List Enumerator) : Except EnumFault Unit := do
  if declares values "__new__" || declares values "__getattr__" || declares values "__getattribute__" then
    throw .notCallable
  if declares values "__setattr__" then throw .valueNotSet
  if declares values "__init__" then throw .notCallable

def make (name : String) (values : List Enumerator) : Except EnumFault EnumClass := do
  let members ← membersFrom name [] values
  let invalid := forbidden.filter fun n => members.any (·.1 == n)
  if !invalid.isEmpty then throw (.invalid invalid)
  if declares values "__slots__" then throw .notIterable
  if name.toList.contains '\x00' then throw .nameHoldsNul
  if declares values "__qualname__" then throw .notAName
  if declares values "__classcell__" then throw .notACell
  if !members.isEmpty then checkMaking values
  if order values != 0 then throw .notIterable
  let special := values.filter fun v => isSpecial v.name.toList
  return { name, members, attributes := special.map fun v => (v.name, v.value) }

/-- The member that a name stands for: the first one of its value. -/
def member? (e : EnumClass) (name : String) : Except EnumFault (String × Int) :=
  match e.members.lookup name with
  | none => .error (.noMember name)
  | some value => .ok ((e.members.find? (·.2 == value)).getD (name, value))

def has (e : EnumClass) (name : String) : Bool := e.attributes.any (·.1 == name)

/-- Where a name is given twice the last one counts. -/
def attribute? (e : EnumClass) (name : String) : Option Int :=
  (e.attributes.filter (·.1 == name)).getLast?.map (·.2)

/-- A class whose members can be got through others, and cannot be set there, makes them look like methods. -/
def looksLikeMethod (e : EnumClass) : Bool := e.has "__get__" && !e.has "__set__"

/-- What is missed of a number when the signature of a member is asked for. A member that can be called is asked for
its signature, in two places and then as a text; one that cannot be called is shown, by way of its class. -/
def missed? (e : EnumClass) : Option String :=
  let signed := e.has "__signature__" || e.has "__wrapped__"
  if e.has "__call__" && !signed && (e.attribute? "__text_signature__").any (· != 0) then some "split"
  else if !(e.has "__call__" && signed) && e.has "__class__" && !e.has "__repr__" then some "_value_repr_"
  else none

end EnumClass

end CBindings
